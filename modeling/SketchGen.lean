import SketchGen.Fault
import SketchGen.Json.Access
import SketchGen.Json.Display
import SketchGen.Json.Read
import SketchGen.Json.Value
import SketchGen.Json.Write
import SketchGen.Main
import SketchGen.Number.Binary64
import SketchGen.Number.Format
import SketchGen.Number.Shortest
import SketchGen.Output.SketchTree
import SketchGen.Output.Tree
import SketchGen.Sketch.Attributes
import SketchGen.Sketch.Identifier
import SketchGen.Sketch.Messaging
import SketchGen.Sketch.Notes
import SketchGen.Sketch.OperationMode
import SketchGen.Sketch.Program
import SketchGen.Sketch.Routine
import SketchGen.Sketch.Struct
import SketchGen.Sketch.Symbol
import SketchGen.Sketch.Task
import SketchGen.Sketch.Variables
import SketchGen.Text.Blank
import SketchGen.Text.Case
import SketchGen.Text.CaseTable
import SketchGen.Text.CodeRange
import SketchGen.Text.Digit
import SketchGen.Text.Layout
import SketchGen.Text.Markup
import SketchGen.Text.PrintableTable
import SketchGen.Text.Quoted
import SketchGen.Web.Asset.Page
import SketchGen.Web.Asset.Rules
import SketchGen.Web.Asset.Script
import SketchGen.Web.Asset.Style
import SketchGen.Web.Asset.Stylesheets
import SketchGen.Web.EntityTag
import SketchGen.Web.Http
import SketchGen.Web.Page
import SketchGen.Web.Range
import SketchGen.Web.Service
import SketchGen.Web.Static
import SketchGen.Web.Url
import SketchGen.Xml.Attribute
import SketchGen.Xml.Char
import SketchGen.Xml.Charset
import SketchGen.Xml.Doctype
import SketchGen.Xml.Dtd
import SketchGen.Xml.Element
import SketchGen.Xml.Error
import SketchGen.Xml.Lex
import SketchGen.Xml.Namespace
import SketchGen.Xml.Prolog
import SketchGen.Xml.Query.Select
import SketchGen.Xml.Query.Step
import SketchGen.Xml.Query.Token
import SketchGen.Xml.Read
import SketchGen.Xml.Tag
import SketchGen.Proofs.Occurrence
import SketchGen.Proofs.Traversal
import SketchGen.Proofs.Sketch.Layout
import SketchGen.Proofs.Sketch.Sections
import SketchGen.Proofs.Sketch.Declarations
import SketchGen.Proofs.Sketch.OperationModes
import SketchGen.Proofs.Sketch.DataStructures
import SketchGen.Proofs.Sketch.DependencyCalls
import SketchGen.Proofs.Output.Addressing
import SketchGen.Proofs.Query.Descendants
import SketchGen.Proofs.Sketch.ChildOrder
import SketchGen.Proofs.Cpp.LineComments
import SketchGen.Proofs.Sketch.DocumentationSlots
import SketchGen.Proofs.Text.CaseMapping
import SketchGen.Proofs.Text.IdentifierShape
import SketchGen.Proofs.Sketch.Buffers
import SketchGen.Proofs.Sketch.GoalLogic
import SketchGen.Proofs.Sketch.Naming
import SketchGen.Proofs.Sketch.FileScope
import SketchGen.Proofs.Output.Resolution
import SketchGen.Proofs.Output.FileWrites
import SketchGen.Proofs.Sketch.Variables
import SketchGen.Proofs.Text.TagRemoval
import SketchGen.Proofs.Sketch.DocumentationInert
import SketchGen.Proofs.Sketch.DocumentationSteps
import SketchGen.Proofs.Sketch.DocumentationTasks
import SketchGen.Proofs.Sketch.DocumentationSketch
