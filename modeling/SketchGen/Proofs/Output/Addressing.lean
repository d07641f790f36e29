import SketchGen.Output.SketchTree
import SketchGen.Proofs.Sketch.Layout
import SketchGen.Proofs.Sketch.Sections

namespace SketchGen.Output

open SketchGen.Json SketchGen.Xml SketchGen.Sketch SketchGen.Text

/-! MQTT addressing across the components of a model. A model written out without a fault has
one system id, and every component directly below its root has a sketch generated with it. A
subscriber names the publisher it listens to by the ids of the publisher's component and of the
publisher itself; its topic is made from those ids by the same identifiers as the topic the
publisher sends on, so the two meet. Distinct publishers send on distinct topics as long as the
identifiers of their ids tell them apart: an identifier forgets case, blanks and hyphens, and a
component identifier holding `/` would run into the next part of the address. -/

/-! ### A run that ends without a fault -/

theorem Tree.runSteps_fired : ∀ {t : Tree} {steps : List (Tree → Gen Tree)},
    (t.runSteps steps).2 = none → ∀ step ∈ steps, ∃ t₀ t₁, step t₀ = .ok t₁
  | _, [], _, _, member => absurd member List.not_mem_nil
  | t, first :: rest, ran, step, member => by
    unfold Tree.runSteps at ran
    split at ran
    · rename_i t₁ stepped
      rcases List.mem_cons.mp member with rfl | later
      · exact ⟨t, t₁, stepped⟩
      · exact Tree.runSteps_fired ran step later
    · simp at ran

theorem sketchOf_of_writeSketch {t t' : Tree} {systemId dir : String} {cpc : Element}
    (h : t.writeSketch systemId cpc dir = .ok t') : ∃ sk, sketchOf systemId cpc = .ok sk := by
  simp only [Tree.writeSketch, sketchText, Gen.bind_eq_ok, Gen.pure_eq_ok] at h
  obtain ⟨_, ⟨sk, made, _⟩, _⟩ := h
  exact ⟨sk, made⟩

theorem sketchOf_of_writeModel {t : Tree} {root : Element} (ran : (t.writeModel root).2 = none) :
    ∃ systemId, systemIdOf root = .ok systemId ∧
      ∀ cpc ∈ root.childrenTagged "cpc", ∃ sk, sketchOf systemId cpc = .ok sk := by
  unfold Tree.writeModel at ran
  split at ran
  · simp at ran
  · rename_i systemId named
    refine ⟨systemId, named, fun cpc member => ?_⟩
    have step : (fun t : Tree => do t.writeSketch systemId cpc (← componentDir cpc)) ∈
        (root.childrenTagged "cpc").flatMap (componentSteps systemId) :=
      List.mem_flatMap.mpr ⟨cpc, member, .tail _ (.head _)⟩
    obtain ⟨t₀, t₁, wrote⟩ := Tree.runSteps_fired ran _ step
    obtain ⟨dir, -, written⟩ := Gen.bind_eq_ok.mp wrote
    exact sketchOf_of_writeSketch written

/-! ### Topic addresses -/

theorem sentTopicOf_address {systemId : String} {cpc publisher : Element} {t : Topic}
    (h : sentTopicOf systemId cpc publisher = .ok t) :
    ∃ cpcId ownId, identOf cpc "id" = .ok cpcId ∧ identOf publisher "id" = .ok ownId ∧
      t.address = systemId ++ "/" ++ cpcId ++ "/" ++ ownId ++ "/dependum" := by
  simp only [sentTopicOf, Gen.bind_eq_ok, Gen.pure_eq_ok] at h
  obtain ⟨_, _, cpcId, cpcNamed, ownId, ownNamed, rfl⟩ := h
  exact ⟨cpcId, ownId, cpcNamed, ownNamed, rfl⟩

theorem receivedTopicOf_address {systemId : String} {subscriber : Element} {t : Topic}
    (h : receivedTopicOf systemId subscriber = .ok t) :
    ∃ cpcId senderId, identOf subscriber "comm_threadCPCId" = .ok cpcId ∧
      identOf subscriber "comm_threadId" = .ok senderId ∧
      t.address = systemId ++ "/" ++ cpcId ++ "/" ++ senderId ++ "/dependum" := by
  simp only [receivedTopicOf, Gen.bind_eq_ok, Gen.pure_eq_ok] at h
  obtain ⟨_, _, cpcId, cpcNamed, senderId, senderNamed, rfl⟩ := h
  exact ⟨cpcId, senderId, cpcNamed, senderNamed, rfl⟩

theorem address_parts_eq {systemId a b c d : String} (ha : '/' ∉ a.toList) (hc : '/' ∉ c.toList)
    (h : systemId ++ "/" ++ a ++ "/" ++ b ++ "/dependum" =
      systemId ++ "/" ++ c ++ "/" ++ d ++ "/dependum") : a = c ∧ b = d := by
  have chars := congrArg String.toList h
  simp only [String.toList_append, List.append_assoc] at chars
  have parts : a.toList ++ '/' :: (b.toList ++ "/dependum".toList) =
      c.toList ++ '/' :: (d.toList ++ "/dependum".toList) :=
    List.append_cancel_left (List.append_cancel_left chars)
  have component (x y : List Char) (free : '/' ∉ x) :
      (x ++ '/' :: y).takeWhile (· != '/') = x := by
    rw [List.takeWhile_append_of_pos (fun z member => by
      simpa using ne_of_mem_of_not_mem member free)]
    simp
  have sameComponent : a.toList = c.toList := by
    rw [← component _ _ ha, ← component _ _ hc, parts]
  rw [sameComponent] at parts
  have sameRest := List.append_cancel_right (List.cons.inj (List.append_cancel_left parts)).2
  exact ⟨String.toList_inj.mp sameComponent, String.toList_inj.mp sameRest⟩

/-! ### Subscribers meet their publishers -/

theorem occurs_sent_topic {sk : Program} {t : Topic} (member : t ∈ sk.topics.sent) :
    Occurs t.text sk.text := by
  have part : sk.topics.text ∈ sk.parts := by simp [Program.parts]
  have line : t.text ∈ titled "// Comm Topics(Sender)" (sk.topics.sent.map Topic.text) ++
      titled "// Listener Topics(Receiver)" (sk.topics.received.map Topic.text) :=
    List.mem_append_left _ (mem_titled _ (List.mem_map_of_mem member))
  exact occurs_text_of_part part (occurs_joinLines line)

theorem occurs_received_topic {sk : Program} {t : Topic} (member : t ∈ sk.topics.received) :
    Occurs t.text sk.text := by
  have part : sk.topics.text ∈ sk.parts := by simp [Program.parts]
  have line : t.text ∈ titled "// Comm Topics(Sender)" (sk.topics.sent.map Topic.text) ++
      titled "// Listener Topics(Receiver)" (sk.topics.received.map Topic.text) :=
    List.mem_append_right _ (mem_titled _ (List.mem_map_of_mem member))
  exact occurs_text_of_part part (occurs_joinLines line)

/-- A subscriber names a publisher when it gives the ids of the publisher's component and of the
publisher. -/
def NamesPublisher (subscriber cpc publisher : Element) : Prop :=
  subscriber.get? "comm_threadCPCId" = cpc.get? "id" ∧
    subscriber.get? "comm_threadId" = publisher.get? "id"

theorem identOf_eq_of_get? {e e' : Element} {name name' : String}
    (same : e.get? name = e'.get? name') : identOf e name = identOf e' name' := by
  simp only [identOf, attrValue, same]

/-- A subscriber of a model written out without a fault listens on the topic of the publisher it
names: both sketches declare a topic, named after their thread, with the address made from the
ids the subscriber names. When the publishers of the model have distinct pairs of identifiers of
their component's id and their own id, and no component's identifier holds `/`, no other
publisher of the model sends on that address. -/
theorem subscriber_topic_meets_publisher {root : Element}
    (ran : (Tree.writeModel {} root).2 = none)
    (distinct : ∀ C ∈ root.childrenTagged "cpc", ∀ C' ∈ root.childrenTagged "cpc",
      ∀ c ∈ publishers C, ∀ c' ∈ publishers C',
        identOf C "id" = identOf C' "id" → identOf c "id" = identOf c' "id" → C = C' ∧ c = c')
    (unslashed : ∀ C ∈ root.childrenTagged "cpc", ∀ i, identOf C "id" = .ok i → '/' ∉ i.toList)
    {C D c l : Element} (hC : C ∈ root.childrenTagged "cpc") (hD : D ∈ root.childrenTagged "cpc")
    (hc : c ∈ publishers C) (hl : l ∈ subscribers D) (naming : NamesPublisher l C c) :
    ∃ systemId skC skD tc tl, systemIdOf root = .ok systemId ∧
      sketchOf systemId C = .ok skC ∧ sketchOf systemId D = .ok skD ∧
      sentTopicOf systemId C c = .ok tc ∧ tc ∈ skC.topics.sent ∧ nameIdent c = .ok tc.owner ∧
        Occurs tc.text skC.text ∧
      receivedTopicOf systemId l = .ok tl ∧ tl ∈ skD.topics.received ∧
        nameIdent l = .ok tl.owner ∧ Occurs tl.text skD.text ∧
      tl.address = tc.address ∧
      ∀ C' ∈ root.childrenTagged "cpc", ∀ c' ∈ publishers C', ∀ t',
        sentTopicOf systemId C' c' = .ok t' → t'.address = tc.address → C' = C ∧ c' = c := by
  obtain ⟨systemId, named, sketched⟩ := sketchOf_of_writeModel ran
  obtain ⟨skC, madeC⟩ := sketched C hC
  obtain ⟨skD, madeD⟩ := sketched D hD
  obtain ⟨sent, -⟩ := topicsOf_spec (generated_of_sketchOf madeC).topics
  obtain ⟨-, received⟩ := topicsOf_spec (generated_of_sketchOf madeD).topics
  obtain ⟨tc, tcMember, tcMade⟩ := Gen.exists_of_mem_mapM_left sent hc
  obtain ⟨tl, tlMember, tlMade⟩ := Gen.exists_of_mem_mapM_left received hl
  obtain ⟨cpcId, ownId, cpcNamed, ownNamed, tcAddress⟩ := sentTopicOf_address tcMade
  obtain ⟨cpcId', senderId, cpcNamed', senderNamed, tlAddress⟩ := receivedTopicOf_address tlMade
  -- the subscriber's ids are the publisher's, so their identifiers are too
  have sameCpc : cpcId' = cpcId :=
    Except.ok.inj (cpcNamed'.symm.trans ((identOf_eq_of_get? naming.1).trans cpcNamed))
  have sameSender : senderId = ownId :=
    Except.ok.inj (senderNamed.symm.trans ((identOf_eq_of_get? naming.2).trans ownNamed))
  refine ⟨systemId, skC, skD, tc, tl, named, madeC, madeD, tcMade, tcMember,
    sentTopicOf_owner tcMade, occurs_sent_topic tcMember, tlMade, tlMember,
    receivedTopicOf_owner tlMade, occurs_received_topic tlMember,
    by rw [tlAddress, tcAddress, sameCpc, sameSender], ?_⟩
  intro C' hC' c' hc' t' made' sameAddress
  obtain ⟨cpcId'', ownId'', cpcNamed'', ownNamed'', address'⟩ := sentTopicOf_address made'
  rw [address', tcAddress] at sameAddress
  obtain ⟨rfl, rfl⟩ := address_parts_eq (unslashed C' hC' _ cpcNamed'') (unslashed C hC _ cpcNamed)
    sameAddress
  exact distinct C' hC' C hC c' hc' c hc (cpcNamed''.trans cpcNamed.symm)
    (ownNamed''.trans ownNamed.symm)

def relaySensor : Element :=
  ⟨1, "cpc", [("id", "c1"), ("name", "Sensor")], "", [
    ⟨2, "thread", [("id", "t1"), ("name", "Sample"), ("qualification_array", "[]"),
      ("contribution_array", "[]")], "", [], ""⟩,
    relayReading,
    ⟨4, "commRelation", [("source", "t1"), ("target", "p1")], "", [], ""⟩], ""⟩
where
  relayReading : Element := ⟨3, "commThread", [("id", "p1"), ("name", "Reading"),
    ("data_structure", "[]")], "", [], ""⟩

def relayDisplay : Element :=
  ⟨5, "cpc", [("id", "c2"), ("name", "Display")], "", [
    ⟨6, "thread", [("id", "t2"), ("name", "Show"), ("qualification_array", "[]"),
      ("contribution_array", "[]")], "", [], ""⟩,
    relayFeed,
    ⟨8, "commRelation", [("source", "s1"), ("target", "t2")], "", [], ""⟩], ""⟩
where
  relayFeed : Element := ⟨7, "listenerThread", [("id", "s1"), ("name", "Feed"),
    ("comm_threadCPCId", "c1"), ("comm_threadId", "p1"), ("data_structure", "[]")], "", [], ""⟩

def relayModel : Element :=
  ⟨0, "cps", [("id", "plant"), ("name", "Plant")], "", [relaySensor, relayDisplay], ""⟩

theorem relayModel_subscriber_topic_meets_publisher :
    (Tree.writeModel {} relayModel).2 = none ∧
      NamesPublisher relayDisplay.relayFeed relaySensor relaySensor.relayReading ∧
      ∃ systemId skC skD tc tl, systemIdOf relayModel = .ok systemId ∧
        sketchOf systemId relaySensor = .ok skC ∧ sketchOf systemId relayDisplay = .ok skD ∧
        sentTopicOf systemId relaySensor relaySensor.relayReading = .ok tc ∧
          tc ∈ skC.topics.sent ∧ nameIdent relaySensor.relayReading = .ok tc.owner ∧
          Occurs tc.text skC.text ∧
        receivedTopicOf systemId relayDisplay.relayFeed = .ok tl ∧ tl ∈ skD.topics.received ∧
          nameIdent relayDisplay.relayFeed = .ok tl.owner ∧ Occurs tl.text skD.text ∧
        tl.address = tc.address ∧
        ∀ C' ∈ relayModel.childrenTagged "cpc", ∀ c' ∈ publishers C', ∀ t',
          sentTopicOf systemId C' c' = .ok t' → t'.address = tc.address →
            C' = relaySensor ∧ c' = relaySensor.relayReading := by
  have ran : (Tree.writeModel {} relayModel).2 = none :=
    Option.isNone_iff_eq_none.mp (by decide +kernel)
  have components : relayModel.childrenTagged "cpc" = [relaySensor, relayDisplay] := rfl
  have sensorPublishers : publishers relaySensor = [relaySensor.relayReading] := rfl
  have displayPublishers : publishers relayDisplay = [] := rfl
  have displaySubscribers : subscribers relayDisplay = [relayDisplay.relayFeed] := rfl
  -- `Reading` is the only publisher of the model
  have only : ∀ C ∈ relayModel.childrenTagged "cpc", ∀ c ∈ publishers C,
      C = relaySensor ∧ c = relaySensor.relayReading := by
    intro C member c published
    rw [components] at member
    rcases List.mem_cons.mp member with rfl | member
    · exact ⟨rfl, List.mem_singleton.mp (sensorPublishers ▸ published)⟩
    · rw [List.mem_singleton.mp member, displayPublishers] at published
      cases published
  have naming : NamesPublisher relayDisplay.relayFeed relaySensor relaySensor.relayReading :=
    ⟨rfl, rfl⟩
  refine ⟨ran, naming, subscriber_topic_meets_publisher ran ?_ ?_ (by simp [components])
    (by simp [components]) (by simp [sensorPublishers])
    (by simp [displaySubscribers]) naming⟩
  · intro C hC C' hC' c hc c' hc' _ _
    obtain ⟨rfl, rfl⟩ := only C hC c hc
    obtain ⟨rfl, rfl⟩ := only C' hC' c' hc'
    exact ⟨rfl, rfl⟩
  · intro C hC i named
    rw [components] at hC
    rcases List.mem_cons.mp hC with rfl | hC
    · cases (show identOf relaySensor "id" = .ok "c1" from rfl).symm.trans named
      decide
    · rw [List.mem_singleton.mp hC] at named
      cases (show identOf relayDisplay "id" = .ok "c2" from rfl).symm.trans named
      decide

/-- A component whose two publishers have the distinct ids `P1` and `p1`, with a subscriber that
listens to the first. -/
def sharedTopicUnit : Element :=
  ⟨1, "cpc", [("id", "c1"), ("name", "Unit")], "", [
    ⟨2, "thread", [("id", "t1"), ("name", "Sense"), ("qualification_array", "[]"),
      ("contribution_array", "[]")], "", [], ""⟩,
    ⟨3, "commThread", [("id", "P1"), ("name", "Report"), ("data_structure", "[]")], "", [], ""⟩,
    ⟨4, "commThread", [("id", "p1"), ("name", "Echo"), ("data_structure", "[]")], "", [], ""⟩,
    ⟨5, "commRelation", [("source", "t1"), ("target", "P1")], "", [], ""⟩,
    ⟨6, "commRelation", [("source", "t1"), ("target", "p1")], "", [], ""⟩,
    ⟨7, "listenerThread", [("id", "s1"), ("name", "Listen"), ("comm_threadCPCId", "c1"),
      ("comm_threadId", "P1"), ("data_structure", "[]")], "", [], ""⟩,
    ⟨8, "commRelation", [("source", "s1"), ("target", "t1")], "", [], ""⟩], ""⟩

def sharedTopicModel : Element :=
  ⟨0, "cps", [("id", "s"), ("name", "S")], "", [sharedTopicUnit], ""⟩

/-- The model is written out without a fault, yet its two publishers send on one topic, which
the subscriber of the first listens to, and the component's three clients share one client
id. -/
theorem sharedTopicModel_collides :
    (Tree.writeModel {} sharedTopicModel).2 = none ∧ systemIdOf sharedTopicModel = .ok "s_s" ∧
      ∃ sk, sketchOf "s_s" sharedTopicUnit = .ok sk ∧
        sk.topics.sent.map Topic.address = ["s_s/c1/p1/dependum", "s_s/c1/p1/dependum"] ∧
        sk.topics.received.map Topic.address = ["s_s/c1/p1/dependum"] ∧
        sk.clients.map Client.id = ["unitClient_c1", "unitClient_c1", "unitClient_c1"] := by
  obtain ⟨sk, made⟩ : ∃ sk, sketchOf "s_s" sharedTopicUnit = .ok sk :=
    Gen.exists_eq_ok_of_isOk (by decide +kernel)
  have collides : (match sketchOf "s_s" sharedTopicUnit with
      | .ok sk =>
        sk.topics.sent.map Topic.address == ["s_s/c1/p1/dependum", "s_s/c1/p1/dependum"] &&
          sk.topics.received.map Topic.address == ["s_s/c1/p1/dependum"] &&
          sk.clients.map Client.id == ["unitClient_c1", "unitClient_c1", "unitClient_c1"]
      | .error _ => false) = true := by decide +kernel
  rw [made] at collides
  simp only [Bool.and_eq_true, beq_iff_eq] at collides
  obtain ⟨⟨sent, received⟩, clients⟩ := collides
  exact ⟨Option.isNone_iff_eq_none.mp (by decide +kernel), rfl, sk, made, sent, received, clients⟩

end SketchGen.Output
