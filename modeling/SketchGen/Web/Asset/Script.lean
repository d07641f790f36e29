namespace SketchGen.Web.Asset

/-! The scripts of the front end page. -/

def pageScript : String :=
  "\n".intercalate [
    "let xsltFiles = [];",
    "let jsonFiles = [];",
    "",
    "const debug = true;",
    "",
    "// Paths to preset files",
    "const PRESET_FILES = \x7b",
    "    \"cim-pim\": \x7b",
    "        xslt: [",
    "            \"/static/input/xsl/CIM-PIM.xsl\",",
    "            \"/static/input/xsl/CIM-PIM-Aux.xsl\"",
    "        ],",
    "        json: \"/static/input/json/CIM-PIM-Rules.json\"",
    "    \x7d,",
    "    \"pim-psm\": \x7b",
    "        xslt: [",
    "            \"/static/input/xsl/PIM-PSM.xsl\"",
    "        ],",
    "        json: \"/static/input/json/PIM-PSM-Rules.json\"",
    "    \x7d",
    "\x7d;",
    "",
    "let currentPreset = \"cim-pim\"; // Default preset",
    "",
    "// Function to read the uploaded XML file and display its content in the textarea",
    "function handleXMLUpload(inputElement) \x7b",
    "    const file = inputElement.files[0];",
    "    if (file) \x7b",
    "        const reader = new FileReader();",
    "        reader.onload = function (e) \x7b",
    "            document.getElementById('inputXML').value = e.target.result;",
    "        \x7d;",
    "        reader.readAsText(file);",
    "    \x7d",
    "\x7d",
    "",
    "// Generic function to handle file uploads for lists",
    "function handleListedUpload(inputElement, fileList, updateListFunction) \x7b",
    "    const file = inputElement.files[0];",
    "    if (file) \x7b",
    "        const reader = new FileReader();",
    "        reader.onload = function (e) \x7b",
    "            // Check if the uploaded file is a JSON file",
    "            if (file.name.endsWith('.json')) \x7b",
    "                // Clear the list if it's a JSON file",
    "                fileList.length = 0; // Clear the existing list",
    "            \x7d",
    "            // Add the new file to the list",
    "            fileList.push(\x7b name: file.name, content: e.target.result \x7d);",
    "            updateListFunction(fileList);",
    "        \x7d;",
    "        reader.readAsText(file);",
    "    \x7d",
    "\x7d",
    "",
    "",
    "// Generic function to update the displayed list of uploaded files",
    "function updateFileList(fileList, listElementId) \x7b",
    "    const fileListElement = document.getElementById(listElementId);",
    "    fileListElement.innerHTML = ''; // Clear the list first",
    "",
    "    fileList.forEach((file, index) => \x7b",
    "        const li = document.createElement('li');",
    "        li.textContent = file.name;",
    "",
    "        if (currentPreset == \"custom\") \x7b",
    "            // Remove button for each file",
    "            const removeButton = document.createElement('button');",
    "            removeButton.textContent = \"Remove\";",
    "            removeButton.onclick = () => removeListedFile(index, fileList, listElementId);",
    "            li.appendChild(removeButton);",
    "        \x7d",
    "        fileListElement.appendChild(li);",
    "    \x7d);",
    "\x7d",
    "",
    "// Generic function to remove a file from the list",
    "function removeListedFile(index, fileList, listElementId) \x7b",
    "    fileList.splice(index, 1);",
    "    updateFileList(fileList, listElementId); // Refresh the list",
    "\x7d",
    "",
    "// Function to read and display XSLT files",
    "function handleXSLTUpload(inputElement) \x7b",
    "    handleListedUpload(inputElement, xsltFiles, (list) => updateFileList(list, 'xslFileList'));",
    "\x7d",
    "",
    "// Event listeners for file inputs",
    "document.getElementById('xmlFileInput').addEventListener('change', function () \x7b",
    "    handleXMLUpload(this);",
    "\x7d);",
    "",
    "document.getElementById('xslFileInput').addEventListener('change', function () \x7b",
    "    handleXSLTUpload(this);",
    "\x7d);",
    "",
    "// Event listener for JSON upload",
    "document.getElementById('jsonFileInput').addEventListener('change', function () \x7b",
    "    handleListedUpload(this, jsonFiles, (list) => updateFileList(list, 'jsonFileList'));",
    "\x7d);",
    "",
    "// Transformation process",
    "document.getElementById('transformBtn').addEventListener('click', function () \x7b",
    "    const inputXML = document.getElementById('inputXML').value;",
    "",
    "    // Function to recursively process each XSLT file in sequence",
    "    function processTransformation(xml, xsltIndex) \x7b",
    "        if (xsltIndex >= xsltFiles.length) \x7b",
    "            // Check if the \"pim-psm\" mode is selected",
    "            const isPimPsmSelected = document.getElementById('pimPSMPreset').checked;",
    "",
    "            if (isPimPsmSelected) \x7b",
    "                // Get the selected values for platform and comm_tech",
    "                const platform = document.getElementById('platforms').value;",
    "                const commTech = document.getElementById('commTechs').value;",
    "",
    "                // Parse the XML and add the new attributes to the <root> element",
    "                const parser = new DOMParser();",
    "                const xmlDoc = parser.parseFromString(xml, 'application/xml');",
    "                const rootElement = xmlDoc.documentElement;",
    "",
    "                // Add the 'platform' and 'comm_tech' attributes",
    "                rootElement.setAttribute('platform', platform);",
    "                rootElement.setAttribute('comm_tech', commTech);",
    "",
    "                // Serialize the modified XML back to a string",
    "                const serializer = new XMLSerializer();",
    "                xml = serializer.serializeToString(xmlDoc);",
    "            \x7d",
    "",
    "            // All transformations are done, display the final output",
    "            document.getElementById('outputXML').value = xml;",
    "            return;",
    "        \x7d",
    "",
    "        const xsltFileContent = xsltFiles[xsltIndex].content;",
    "",
    "        fetch('/transform', \x7b",
    "            method: 'POST',",
    "            headers: \x7b 'Content-Type': 'application/x-www-form-urlencoded' \x7d,",
    "            body: new URLSearchParams(\x7b",
    "                'inputXML': xml,",
    "                'xslFile': xsltFileContent",
    "            \x7d)",
    "        \x7d)",
    "            .then(response => response.json())",
    "            .then(data => \x7b",
    "                // Pass the transformed result to the next XSLT transformation",
    "                processTransformation(data.output, xsltIndex + 1);",
    "            \x7d)",
    "            .catch(error => console.error('Error:', error));",
    "    \x7d",
    "",
    "    if (xsltFiles.length > 0) \x7b",
    "        // Start the transformation chain with the first XSLT file",
    "        processTransformation(inputXML, 0);",
    "    \x7d else \x7b",
    "        alert('Please upload at least one XSLT file.');",
    "    \x7d",
    "\x7d);",
    "",
    "// Download output XML functionality",
    "document.getElementById('downloadBtn').addEventListener('click', function () \x7b",
    "    const outputXML = document.getElementById('outputXML').value;",
    "    const blob = new Blob([outputXML], \x7b type: 'text/xml' \x7d);",
    "    const url = URL.createObjectURL(blob);",
    "    const a = document.createElement('a');",
    "    a.href = url;",
    "    a.download = 'output.xml';",
    "    document.body.appendChild(a);",
    "    a.click();",
    "    document.body.removeChild(a);",
    "\x7d);",
    "",
    "document.getElementById('applyRulesBtn').addEventListener('click', function () \x7b",
    "    let inputXML = document.getElementById('inputXML').value;",
    "",
    "    if (jsonFiles.length > 0) \x7b",
    "        // Get the modification rules from the first JSON file",
    "        const firstJsonFile = jsonFiles[0];",
    "",
    "        try \x7b",
    "            const json = JSON.parse(firstJsonFile.content); // Parse the JSON content",
    "            const modificationRules = json.modifications; // Get the modifications from the JSON",
    "",
    "            // Populate the modal with questions",
    "            populateQuestionnaireForm(modificationRules);",
    "            openModal(); // Show the modal to the user",
    "",
    "        \x7d catch (error) \x7b",
    "            alert(\"Invalid JSON format in the first file.\");",
    "            console.error(\"JSON parse error:\", error);",
    "        \x7d",
    "    \x7d else \x7b",
    "        alert('No JSON files uploaded. Please upload a valid JSON file with rules.');",
    "    \x7d",
    "\x7d);",
    "",
    "// Function to open the modal",
    "function openModal() \x7b",
    "    document.getElementById('questionnaireModal').style.display = \"block\";",
    "\x7d",
    "",
    "// Function to close the modal",
    "function closeModal() \x7b",
    "    document.getElementById('questionnaireModal').style.display = \"none\";",
    "\x7d",
    "",
    "// Function to apply the modifications to the XML",
    "function applyModifications(inputXML, modificationRules, formData) \x7b",
    "    if (!modificationRules || modificationRules.length === 0) \x7b",
    "        console.log('No modifications found. Please upload a valid JSON with rules.');",
    "        return inputXML; // Return unmodified XML if no rules are provided",
    "    \x7d",
    "",
    "    const parser = new DOMParser();",
    "    const xmlDoc = parser.parseFromString(inputXML, \"text/xml\");",
    "",
    "    modificationRules.forEach((rule, modIndex) => \x7b",
    "        const xpathResult = evaluateXPath(xmlDoc, rule.xpath);",
    "",
    "        xpathResult.forEach((node, elemIndex) => \x7b",
    "            rule.attributes.forEach(attribute => \x7b",
    "                const baseFieldName = `modification_$\x7bmodIndex\x7d_element_$\x7belemIndex\x7d_$\x7battribute.name\x7d`;",
    "",
    "                // Recursive function to handle nested attributes",
    "                function applyNestedAttributes(attr, parentValue, baseName) \x7b",
    "                    if (parentValue && attr.additionalAttribute && attr.additionalAttribute.conditional) \x7b",
    "                        if (parentValue === attr.additionalAttribute.conditional) \x7b",
    "                            const nestedFieldName = `$\x7bbaseName\x7d_$\x7battr.additionalAttribute.attribute.name\x7d`;",
    "",
    "                            const nestedValue = formData[nestedFieldName];",
    "",
    "                            if (nestedValue) \x7b",
    "                                if (attr.additionalAttribute.attribute.parametersTable) \x7b",
    "                                    // Handle table-based nested attributes",
    "                                    node.setAttribute(attr.additionalAttribute.attribute.name, JSON.stringify(nestedValue));",
    "                                \x7d else \x7b",
    "                                    node.setAttribute(attr.additionalAttribute.attribute.name, nestedValue);",
    "                                \x7d",
    "                            \x7d",
    "                            // Recursively handle deeper nested attributes, if any",
    "                            applyNestedAttributes(attr.additionalAttribute.attribute, nestedValue, nestedFieldName);",
    "                        \x7d",
    "                    \x7d",
    "                \x7d",
    "",
    "                if (attribute.parametersTable) \x7b",
    "                    // Handle table-based attributes",
    "                    const tableData = formData[baseFieldName];",
    "",
    "                    if (tableData) \x7b",
    "                        node.setAttribute(attribute.name, JSON.stringify(tableData)); // Set JSON string as attribute value",
    "                    \x7d",
    "                \x7d else if (attribute.additionalAttribute && attribute.additionalAttribute.conditional) \x7b",
    "                    // Handle conditional attributes and nested ones",
    "                    const mainValue = formData[baseFieldName];",
    "",
    "                    if (mainValue) \x7b",
    "                        node.setAttribute(attribute.name, mainValue);",
    "                        applyNestedAttributes(attribute, mainValue, baseFieldName);",
    "                    \x7d",
    "                \x7d else if (attribute.options || attribute.freeTextArea || attribute.number) \x7b",
    "                    // Handle standard fields",
    "                    const userValue = formData[baseFieldName];",
    "",
    "                    if (userValue) \x7b",
    "                        node.setAttribute(attribute.name, userValue);",
    "                    \x7d",
    "                \x7d",
    "            \x7d);",
    "        \x7d);",
    "    \x7d);",
    "",
    "    // Serialize the modified XML back to a string and return it",
    "    const serializer = new XMLSerializer();",
    "    return serializer.serializeToString(xmlDoc);",
    "\x7d",
    "",
    "// Updated populateQuestionnaireForm to include each matched element in the questionnaire",
    "function populateQuestionnaireForm(modifications) \x7b",
    "    const form = document.getElementById('questionnaireForm');",
    "    form.innerHTML = ''; // Clear the form first",
    "    form.classList.add('modal-form'); // Add modal class to the form",
    "",
    "    const parser = new DOMParser();",
    "    const xmlDoc = parser.parseFromString(document.getElementById('inputXML').value, 'text/xml');",
    "",
    "    // Helper function to extract data from an XML node",
    "    function getNodeAttribute(node, attribute) \x7b",
    "        return node.getAttribute(attribute) || '';",
    "    \x7d",
    "",
    "    // Recursive function to process attributes",
    "    function createAttributeInputs(attribute, modIndex, elemIndex, baseName, node) \x7b",
    "        const container = document.createElement('div'); // Container for this attribute's inputs",
    "        container.classList.add('attribute-container');",
    "",
    "        // Add the hint section if it exists",
    "        if (attribute.hint) \x7b",
    "            const hintContainer = document.createElement('div');",
    "            hintContainer.classList.add('modal-hint-container');",
    "",
    "            const hintHeader = document.createElement('h4');",
    "            hintHeader.textContent = attribute.hint.header;",
    "            hintHeader.classList.add('modal-hint-header');",
    "            hintContainer.appendChild(hintHeader);",
    "",
    "            const hintTextarea = document.createElement('textarea');",
    "            hintTextarea.readOnly = true;",
    "            hintTextarea.classList.add('modal-textarea-uneditable');",
    "",
    "            // Gather hint elements from the XML node",
    "            const hintValues = attribute.hint.elements.map(elementName => getNodeAttribute(node, elementName));",
    "            hintTextarea.value = hintValues.filter(Boolean).join('\\n');",
    "            hintContainer.appendChild(hintTextarea);",
    "",
    "            container.appendChild(hintContainer);",
    "        \x7d",
    "",
    "        const questionLabel = document.createElement('label');",
    "        questionLabel.textContent = attribute.statement;",
    "        questionLabel.classList.add('modal-question-label');",
    "",
    "        let input;",
    "        if (attribute.options) \x7b",
    "            // Dropdown for `options`",
    "            input = document.createElement('select');",
    "            input.classList.add('modal-select');",
    "            attribute.options.forEach(option => \x7b",
    "                const optionElement = document.createElement('option');",
    "                optionElement.value = option;",
    "                optionElement.textContent = option;",
    "                input.appendChild(optionElement);",
    "            \x7d);",
    "        \x7d else if (attribute.parametersTable) \x7b",
    "            // Unique container for each parameters table",
    "            const tableContainer = document.createElement('div');",
    "            tableContainer.classList.add('modal-parameters-table-container');",
    "",
    "            // Table with headers based on parametersTable.headers",
    "            const table = document.createElement('table');",
    "            table.classList.add('modal-parameters-table');",
    "            table.id = `$\x7bbaseName\x7d_$\x7battribute.name\x7d`;",
    "",
    "            // Header row",
    "            const tableHeaders = document.createElement('tr');",
    "            attribute.parametersTable.headers.forEach(header => \x7b",
    "                const th = document.createElement('th');",
    "                th.classList.add('modal-parameters-table-header');",
    "                th.textContent = capitalizeWord(header);",
    "                tableHeaders.appendChild(th);",
    "            \x7d);",
    "            const removeHeader = document.createElement('th');",
    "            removeHeader.classList.add('modal-parameters-table-header');",
    "            tableHeaders.appendChild(removeHeader);",
    "            table.appendChild(tableHeaders);",
    "",
    "            // Pre-fill table rows if `derivate_from` exists",
    "            const derivedData = attribute.derivate_from ? JSON.parse(getNodeAttribute(node, attribute.derivate_from)) || [] : [];",
    "            derivedData.forEach(rowData => \x7b",
    "                const row = document.createElement('tr');",
    "                attribute.parametersTable.headers.forEach((header, index) => \x7b",
    "                    const cell = document.createElement('td');",
    "                    cell.classList.add('modal-parameters-table-cell');",
    "                    const cellInput = document.createElement('input');",
    "                    cellInput.type = 'text';",
    "                    cellInput.classList.add('modal-parameters-table-input');",
    "                    cellInput.value = rowData[header] || '';",
    "                    if (attribute.parametersTable.dropdown_box_values && attribute.parametersTable.dropdown_box_values[header]) \x7b",
    "                        // Convert input to dropdown if dropdown values exist for this header",
    "                        const dropdown = document.createElement('select');",
    "                        dropdown.classList.add('modal-parameters-table-select');",
    "                        attribute.parametersTable.dropdown_box_values[header].forEach(option => \x7b",
    "                            const optionElement = document.createElement('option');",
    "                            optionElement.value = option;",
    "                            optionElement.textContent = option;",
    "                            dropdown.appendChild(optionElement);",
    "                        \x7d);",
    "                        dropdown.value = rowData[header] || '';",
    "                        cellInput.replaceWith(dropdown);",
    "                        cell.appendChild(dropdown);",
    "                    \x7d else \x7b",
    "                        cell.appendChild(cellInput);",
    "                    \x7d",
    "                    row.appendChild(cell);",
    "                \x7d);",
    "",
    "                // Add remove button cell",
    "                const removeCell = document.createElement('td');",
    "                removeCell.classList.add('modal-parameters-table-cell');",
    "                const removeButton = document.createElement('button');",
    "                removeButton.type = 'button';",
    "                removeButton.textContent = 'X';",
    "                removeButton.classList.add('modal-remove-row-button');",
    "                removeButton.onclick = () => row.remove(); // Removes the row when clicked",
    "                removeCell.appendChild(removeButton);",
    "                row.appendChild(removeCell);",
    "",
    "                table.appendChild(row);",
    "            \x7d);",
    "",
    "            // Add the \"Add Parameter\" button to all tables",
    "            const addRowButton = document.createElement('button');",
    "            addRowButton.type = 'button';",
    "            addRowButton.textContent = \"Add Parameter\";",
    "            addRowButton.classList.add('modal-add-row-button');",
    "            addRowButton.onclick = () => \x7b",
    "                const row = document.createElement('tr');",
    "                attribute.parametersTable.headers.forEach(header => \x7b",
    "                    const cell = document.createElement('td');",
    "                    cell.classList.add('modal-parameters-table-cell');",
    "",
    "                    if (attribute.parametersTable.sequence_values && Object.keys(attribute.parametersTable.sequence_values).includes(header.toLowerCase())) \x7b",
    "                        // Sequence value logic",
    "                        const column = Object.keys(attribute.parametersTable.sequence_values)[0];",
    "                        let value = attribute.parametersTable.sequence_values[column]++;",
    "                        const sequenceInput = document.createElement('input');",
    "                        sequenceInput.type = 'number';",
    "                        sequenceInput.value = value;",
    "                        sequenceInput.classList.add('modal-parameters-table-input');",
    "                        sequenceInput.onkeydown = allowOnlyNumbers;",
    "",
    "                        cell.appendChild(sequenceInput);",
    "                    \x7d else if (attribute.parametersTable.dropdown_box_values && attribute.parametersTable.dropdown_box_values[header]) \x7b",
    "                        // Dropdown box logic",
    "                        const dropdown = document.createElement('select');",
    "                        dropdown.classList.add('modal-parameters-table-select');",
    "                        attribute.parametersTable.dropdown_box_values[header].forEach(option => \x7b",
    "                            const optionElement = document.createElement('option');",
    "                            optionElement.value = option;",
    "                            optionElement.textContent = option;",
    "                            dropdown.appendChild(optionElement);",
    "                        \x7d);",
    "                        cell.appendChild(dropdown);",
    "                    \x7d else \x7b",
    "                        // Default to a text input for other cases",
    "                        const cellInput = document.createElement('input');",
    "                        cellInput.type = 'text';",
    "                        cellInput.classList.add('modal-parameters-table-input');",
    "                        cell.appendChild(cellInput);",
    "                    \x7d",
    "",
    "                    row.appendChild(cell);",
    "                \x7d);",
    "",
    "                // Add remove button cell",
    "                const removeCell = document.createElement('td');",
    "                removeCell.classList.add('modal-parameters-table-cell');",
    "                const removeButton = document.createElement('button');",
    "                removeButton.type = 'button';",
    "                removeButton.textContent = 'X';",
    "                removeButton.classList.add('modal-remove-row-button');",
    "                removeButton.onclick = () => row.remove(); // Removes the row when clicked",
    "                removeCell.appendChild(removeButton);",
    "                row.appendChild(removeCell);",
    "",
    "                table.appendChild(row);",
    "            \x7d;",
    "",
    "            tableContainer.appendChild(table);",
    "            tableContainer.appendChild(addRowButton);",
    "            input = tableContainer;",
    "        \x7d else if (attribute.freeTextArea) \x7b",
    "            // Free text area",
    "            input = document.createElement('textarea');",
    "            input.rows = 4;",
    "            input.classList.add('modal-textarea');",
    "        \x7d else if (attribute.number) \x7b",
    "            // Number input",
    "            input = document.createElement('input');",
    "            input.type = 'number';",
    "            input.min = '0';",
    "            input.value = '200';",
    "            input.step = '10';",
    "            input.onkeydown = allowOnlyNumbers;",
    "            input.classList.add('modal-number-input');",
    "        \x7d else \x7b",
    "            // Default to a text input for other cases",
    "            input = document.createElement('input');",
    "            input.type = 'text';",
    "            input.classList.add('modal-text-input');",
    "        \x7d",
    "",
    "        // Assign unique name for form data identification",
    "        input.name = `$\x7bbaseName\x7d_$\x7battribute.name\x7d`;",
    "        container.appendChild(questionLabel);",
    "        container.appendChild(input);",
    "",
    "        // Handle recursive `additionalAttribute`",
    "        if (attribute.additionalAttribute) \x7b",
    "            const toggleAdditionalInputs = () => \x7b",
    "                const isVisible = input.value === attribute.additionalAttribute.conditional;",
    "                nestedInputsContainer.style.display = isVisible ? 'block' : 'none';",
    "            \x7d;",
    "",
    "            // Create nested container for additional attributes",
    "            const nestedInputsContainer = document.createElement('div');",
    "            nestedInputsContainer.classList.add('nested-attribute-container');",
    "            nestedInputsContainer.style.display = 'none'; // Initially hidden",
    "            const nestedInputs = createAttributeInputs(",
    "                attribute.additionalAttribute.attribute,",
    "                modIndex,",
    "                elemIndex,",
    "                `$\x7bbaseName\x7d_$\x7battribute.name\x7d`,",
    "                node",
    "            );",
    "            nestedInputsContainer.appendChild(nestedInputs);",
    "            container.appendChild(nestedInputsContainer);",
    "",
    "            // Add event listener for toggle logic",
    "            input.addEventListener('change', toggleAdditionalInputs);",
    "",
    "            // Ensure the visibility is set correctly on initial load",
    "            toggleAdditionalInputs();",
    "        \x7d",
    "        return container;",
    "    \x7d",
    "",
    "    // Process modifications and generate form",
    "    modifications.forEach((modification, modIndex) => \x7b",
    "        const elements = evaluateXPath(xmlDoc, modification.xpath);",
    "",
    "        elements.forEach((node, elemIndex) => \x7b",
    "            if (debug) \x7b",
    "                console.log(\"----------------------------------------------\");",
    "                console.log(\"Node: \" + getNodeAttribute(node, \"label\"));",
    "            \x7d",
    "",
    "            // Get 'label' and 'type' attributes for descriptive legends",
    "            const type = node.getAttribute('type') || 'Unknown Type';",
    "            const label = node.getAttribute('label') || `Element $\x7belemIndex + 1\x7d`;",
    "            if (debug) \x7b",
    "                console.log(\"Current Node: \" + label)",
    "            \x7d",
    "",
    "            // Retrieve parent information",
    "            const mxCell = node.querySelector('mxCell');",
    "            const parentId = mxCell ? mxCell.getAttribute('parent') : null;",
    "            if (debug) \x7b",
    "                console.log(\"ParentNodeID: \" + parentId)",
    "            \x7d",
    "            let parentLabel = '';",
    "",
    "            if (parentId && parentId !== \"1\") \x7b",
    "                // Find the initial parent node",
    "                let currentParentNode = xmlDoc.querySelector(`object[id=\"$\x7bparentId\x7d\"]`);",
    "                if (debug) \x7b",
    "                    console.log(\"ParentNode: \" + currentParentNode.getAttribute(\"type\"))",
    "                \x7d",
    "",
    "                // Traverse ancestry if the parent isn't a \"cps_component\"",
    "                while (currentParentNode) \x7b",
    "                    const parentType = currentParentNode.getAttribute('type');",
    "",
    "                    if (parentType === \"cps_component\") \x7b",
    "                        // If it's a cps_component, retrieve its label",
    "                        parentLabel = currentParentNode.getAttribute('label') || '';",
    "                        break;",
    "                    \x7d else if (parentType === \"boundary\") \x7b",
    "                        // Handle \"boundary\" by finding an \"owns\" relationship",
    "                        // Get all 'object' elements with type=\"owns\"",
    "                        // Get the ID of the current parent node",
    "                        const targetId = currentParentNode.getAttribute(\"id\");",
    "",
    "                        // Get all 'object' elements with type=\"owns\"",
    "                        const objects = xmlDoc.querySelectorAll('object[type=\"owns\"]');",
    "",
    "                        let ownsEdge = null;",
    "",
    "                        // Loop through and find the correct object",
    "                        objects.forEach(obj => \x7b",
    "                            const mxCell = obj.querySelector(`mxCell[target=\"$\x7btargetId\x7d\"]`);",
    "                            if (mxCell) \x7b",
    "                                ownsEdge = obj; // Found the matching object",
    "                            \x7d",
    "                        \x7d);",
    "",
    "                        // Log or use the `ownsEdge`",
    "                        if (ownsEdge) \x7b",
    "                            console.log('Found node:', ownsEdge);",
    "                        \x7d else \x7b",
    "                            console.log('No matching node found.');",
    "                        \x7d",
    "",
    "                        if (ownsEdge) \x7b",
    "                            // Move to the next node in the relationship",
    "                            // Get the child mxCell of the ownsEdge node",
    "                            const mxCell = ownsEdge.querySelector('mxCell');",
    "",
    "                            if (mxCell) \x7b",
    "                                // Get the 'source' attribute of the mxCell",
    "                                const sourceId = mxCell.getAttribute('source');",
    "                                console.log('Source ID:', sourceId);",
    "                                currentParentNode = xmlDoc.querySelector(`object[id=\"$\x7bsourceId\x7d\"]`);",
    "                                console.log(\"True parent: \"+currentParentNode.getAttribute(\"label\"));",
    "                                parentLabel = currentParentNode.getAttribute(\"label\");",
    "                            \x7d else \x7b",
    "                                console.log('No mxCell found as a child of ownsEdge.');",
    "                            \x7d",
    "",
    "                            ",
    "                        \x7d else \x7b",
    "                            // Stop if no valid \"owns\" edge is found",
    "                            currentParentNode = null;",
    "                        \x7d",
    "                    \x7d else \x7b",
    "                        // For other types, stop the search",
    "                        currentParentNode = null;",
    "                    \x7d",
    "                \x7d",
    "            \x7d",
    "",
    "",
    "            // Compose the legend text",
    "            //const legendText = parentLabel",
    "            //    ? `$\x7bparentLabel\x7d > $\x7btype.charAt(0).toUpperCase() + type.slice(1)\x7d: $\x7blabel\x7d`",
    "            //    : `$\x7btype.charAt(0).toUpperCase() + type.slice(1)\x7d: $\x7blabel\x7d`;",
    "            ",
    "            //-----------------------------------------------------------------------------------",
    "            /**",
    "            * 🛠\ufe0f User-facing type label mapping (customization layer)",
    "            * ",
    "            * This map customizes the display names of element types in the form shown",
    "            * during the PIM \u2192 PSM transformation. It only affects the GUI (not the model logic).",
    "            * ",
    "            * To change the label for a construct, uncomment its entry and provide a new value.",
    "            * Keys must match the lowercase 'type' value used internally in the XML model.",
    "            * ",
    "            * Available types you may customize:",
    "            *  - operational_goal",
    "            *  - action",
    "            *  - hw_resource",
    "            *  - sw_resource",
    "            *  - comm_thread",
    "            *  - comm_listener",
    "            *  - and_refinement_operator",
    "            *  - or_refinement_operator",
    "            *  - relation",
    "            *  - comm_relation",
    "            *  - cpc_container",
    "            */",
    "",
    "            const typeLabelMap = \x7b",
    "                \"operational_goal\": \"on interval action\",",
    "                \"action\": \"on demand action\",",
    "                \"comm_thread\": \"message sender\",",
    "                \"comm_listener\": \"message receiver\",",
    "                \"cpc_container\": \"cp component\"",
    "                ",
    "                // To customize more types, just uncomment and rename as desired:",
    "                // \"hw_resource\": \"hw_resource\",",
    "                // \"sw_resource\": \"sw_resource\",",
    "                // \"and_refinement_operator\": \"and_ref\",",
    "                // \"or_refinement_operator\": \"or_ref\",",
    "                // \"relation\": \"rel\",",
    "                // \"comm_relation\": \"comm_rel\"",
    "            \x7d;",
    "",
    "",
    "            // Normalizes the type by removing any suffix or additional description.",
    "            const baseType = type.split(\":\")[0].trim().toLowerCase(); // e.g., \"Comm_thread: Dato ...\" \u2192 \"comm_thread\"",
    "            const readableType = typeLabelMap[baseType] || baseType;",
    "            const legendText = parentLabel",
    "                ? `$\x7bparentLabel\x7d > $\x7breadableType\x7d: $\x7blabel\x7d`",
    "                : `$\x7breadableType\x7d: $\x7blabel\x7d`;",
    "            //-----------------------------------------------------------------------------------",
    "",
    "",
    "            // Create and style fieldset with legend",
    "            const fieldset = document.createElement('fieldset');",
    "            fieldset.classList.add('modal-fieldset');",
    "            const legend = document.createElement('legend');",
    "            legend.textContent = legendText;",
    "            legend.classList.add('modal-legend');",
    "            fieldset.appendChild(legend);",
    "",
    "            modification.attributes.forEach(attribute => \x7b",
    "                // Check conditions for this specific attribute",
    "                let conditionsMet = true;",
    "",
    "                if (attribute.conditional) \x7b",
    "                    const conditionalAttribute = Object.keys(attribute.conditional)[0];",
    "                    const conditionalValue = attribute.conditional[conditionalAttribute];",
    "",
    "                    if (debug) \x7b",
    "                        console.log(\"----------------------------------------------\");",
    "                        console.log(\"Node: \" + getNodeAttribute(node, \"label\"));",
    "                        console.log(\"Attribute Name: \" + attribute.name);",
    "                        console.log(\"Conditional attribute: \" + conditionalAttribute);",
    "                        console.log(\"True Value: \" + getNodeAttribute(node, conditionalAttribute));",
    "                        console.log(\"Conditional Value: \" + conditionalValue);",
    "                    \x7d",
    "",
    "                    conditionsMet = getNodeAttribute(node, conditionalAttribute) === conditionalValue;",
    "",
    "                    if (debug) \x7b",
    "                        console.log(\"Condition is met for attribute: \" + conditionsMet);",
    "                        console.log(\"----------------------------------------------\");",
    "                    \x7d",
    "                \x7d",
    "",
    "                // Only process the attribute if conditions are met",
    "                if (conditionsMet) \x7b",
    "                    const baseName = `modification_$\x7bmodIndex\x7d_element_$\x7belemIndex\x7d`;",
    "                    const attributeInputs = createAttributeInputs(attribute, modIndex, elemIndex, baseName, node);",
    "                    fieldset.appendChild(attributeInputs);",
    "                \x7d",
    "            \x7d);",
    "",
    "            // Only append fieldset if it has children beyond the legend",
    "            if (fieldset.children.length > 1) form.appendChild(fieldset);",
    "        \x7d);",
    "    \x7d);",
    "",
    "\x7d",
    "",
    "",
    "",
    "// Utility to evaluate an XPath expression and return matching elements",
    "function evaluateXPath(xmlDoc, xpath) \x7b",
    "    const results = [];",
    "    const xpathResult = xmlDoc.evaluate(xpath, xmlDoc, null, XPathResult.ORDERED_NODE_SNAPSHOT_TYPE, null);",
    "    for (let i = 0; i < xpathResult.snapshotLength; i++) \x7b",
    "        results.push(xpathResult.snapshotItem(i));",
    "    \x7d",
    "    return results;",
    "\x7d",
    "",
    "",
    "// Handle the modal form submission",
    "document.getElementById('submitAttributesBtn').addEventListener('click', function () \x7b",
    "    const formData = collectFormData();",
    "    if (debug) \x7b",
    "        console.log(\"Form Data: \" + JSON.stringify(formData));",
    "    \x7d",
    "",
    "    if (jsonFiles.length > 0) \x7b",
    "        // Get modification rules from the first JSON file",
    "        const modificationRules = JSON.parse(jsonFiles[0].content).modifications;",
    "        let inputXML = document.getElementById('inputXML').value;",
    "",
    "        if (modificationRules) \x7b",
    "            // Apply modifications using collected form data",
    "            inputXML = applyModifications(inputXML, modificationRules, formData);",
    "",
    "            // Update the input XML textarea with the modified XML",
    "            document.getElementById('inputXML').value = inputXML;",
    "",
    "            closeModal(); // Close modal after applying changes",
    "            alert(\"Modifications applied successfully.\");",
    "        \x7d else \x7b",
    "            alert(\"No valid modification rules found.\");",
    "        \x7d",
    "    \x7d else \x7b",
    "        alert('No JSON files uploaded. Please upload a valid JSON file with rules.');",
    "    \x7d",
    "\x7d);",
    "",
    "// Function to collect all form data, including complex types",
    "function collectFormData() \x7b",
    "    const formData = new FormData(document.getElementById('questionnaireForm'));",
    "    const data = \x7b\x7d;",
    "",
    "    // Convert FormData to a plain object for easier handling",
    "    formData.forEach((value, key) => \x7b",
    "        data[key] = value;",
    "    \x7d);",
    "",
    "    // Collect data from tables (parametersTable)",
    "    document.querySelectorAll('.modal-parameters-table-container table').forEach(table => \x7b",
    "        const rows = Array.from(table.querySelectorAll('tr')).slice(1); // Exclude header row",
    "        const headers = Array.from(table.querySelector('tr').querySelectorAll('th')).map(th => th.textContent.trim()); // Extract headers",
    "",
    "        const tableData = rows.map(row => \x7b",
    "            const rowData = \x7b\x7d;",
    "            Array.from(row.querySelectorAll('td')).forEach((cell, index) => \x7b",
    "                // Use header as key if it exists and match to the cell value",
    "                if (index < headers.length - 1) \x7b // Exclude the last column (Remove button)",
    "                    const header = headers[index].toLowerCase();",
    "                    const input = cell.querySelector('input, select'); // Collect value from input or select",
    "                    if (input) \x7b",
    "                        rowData[header] = input.value;",
    "                    \x7d",
    "                \x7d",
    "            \x7d);",
    "            return rowData;",
    "        \x7d);",
    "",
    "        // Store table data using table's unique ID as key",
    "        data[table.id] = tableData;",
    "    \x7d);",
    "",
    "    // Collect data from conditional attributes",
    "    document.querySelectorAll('textarea').forEach(textarea => \x7b",
    "        if (textarea.style.display !== 'none') \x7b // Only include visible textareas",
    "            data[textarea.name] = textarea.value;",
    "        \x7d",
    "    \x7d);",
    "",
    "    return data;",
    "\x7d",
    "",
    "// Function to load preset files",
    "async function loadPresetFiles(preset) \x7b",
    "    if (preset === \"custom\") \x7b",
    "        xsltFiles = [];",
    "        jsonFiles = [];",
    "        updateFileList(xsltFiles, 'xslFileList');",
    "        updateFileList(jsonFiles, 'jsonFileList');",
    "        return;",
    "    \x7d",
    "",
    "    const presetData = PRESET_FILES[preset];",
    "",
    "    // Load XSLT files",
    "    xsltFiles = await Promise.all(",
    "        presetData.xslt.map(path => fetch(path).then(res => res.text()).then(content => (\x7b",
    "            name: path.split('/').pop(),",
    "            content",
    "        \x7d)))",
    "    );",
    "",
    "    // Load JSON file",
    "    const jsonContent = await fetch(presetData.json).then(res => res.text());",
    "    jsonFiles = [\x7b name: presetData.json.split('/').pop(), content: jsonContent \x7d];",
    "",
    "    updateFileList(xsltFiles, 'xslFileList');",
    "    updateFileList(jsonFiles, 'jsonFileList');",
    "\x7d",
    "",
    "// Event listeners for preset radio buttons",
    "document.getElementById('cimPimPreset').addEventListener('change', function () \x7b",
    "    if (this.checked) \x7b",
    "        currentPreset = \"cim-pim\";",
    "        document.getElementById('xslFileUpload').style.display = \"none\";",
    "        document.getElementById('jsonFileUpload').style.display = \"none\";",
    "        document.getElementById('psmAttributeArea').style.display = \"none\";",
    "        loadPresetFiles(\"cim-pim\");",
    "    \x7d",
    "\x7d);",
    "",
    "document.getElementById('pimPSMPreset').addEventListener('change', function () \x7b",
    "    if (this.checked) \x7b",
    "        currentPreset = \"pim-psm\";",
    "        document.getElementById('xslFileUpload').style.display = \"none\";",
    "        document.getElementById('jsonFileUpload').style.display = \"none\";",
    "        document.getElementById('psmAttributeArea').style.display = \"flex\";",
    "        loadPresetFiles(\"pim-psm\");",
    "    \x7d",
    "\x7d);",
    "/*",
    "document.getElementById('customPreset').addEventListener('change', function () \x7b",
    "    if (this.checked) \x7b",
    "        currentPreset = \"custom\";",
    "        document.getElementById('xslFileUpload').style.display = \"flex\";",
    "        document.getElementById('jsonFileUpload').style.display = \"flex\";",
    "        document.getElementById('psmAttributeArea').style.display = \"none\";",
    "        loadPresetFiles(\"custom\");",
    "    \x7d",
    "\x7d);",
    "",
    "*/",
    "",
    "function allowOnlyNumbers(event) \x7b",
    "    // Define allowed keys",
    "    const allowedKeys = ['Backspace', 'ArrowLeft', 'ArrowRight', 'Delete', 'Tab'];",
    "",
    "    // Check if the pressed key is allowed",
    "    if (",
    "        !allowedKeys.includes(event.key) && // Allow navigation and editing keys",
    "        (event.key < '0' || event.key > '9') // Block non-numeric keys",
    "    ) \x7b",
    "        event.preventDefault();",
    "    \x7d",
    "\x7d",
    "",
    "function capitalizeWord(word) \x7b",
    "    if (!word) return ''; // Handle empty strings gracefully",
    "    return word.charAt(0).toUpperCase() + word.slice(1).toLowerCase();",
    "\x7d",
    "",
    "",
    "// Initial setup for default preset",
    "loadPresetFiles(currentPreset);",
    "",
    "",
    "",
    "",
    ""]

def ruleScript : String :=
  "\n".intercalate [
    "// Global variable to store the modification rules from the JSON file",
    "let modificationRules = [];",
    "",
    "// Function to handle JSON file upload",
    "function handleJSONUpload(inputElement) \x7b",
    "    const file = inputElement.files[0];",
    "    if (file) \x7b",
    "        const reader = new FileReader();",
    "        reader.onload = function (e) \x7b",
    "            try \x7b",
    "                // Parse the JSON file content",
    "                const json = JSON.parse(e.target.result);",
    "                modificationRules = json.modifications;",
    "",
    "                // Automatically populate the questionnaire if JSON is valid",
    "                if (modificationRules.length > 0) \x7b",
    "                    populateQuestionnaireForm(modificationRules);",
    "                    openModal(); // Open modal to display questionnaire",
    "                \x7d else \x7b",
    "                    alert(\"No modifications found in JSON.\"); // Inform user if no modifications",
    "                \x7d",
    "            \x7d catch (error) \x7b",
    "                alert(\"Invalid JSON format.\");",
    "                console.error(\"JSON parse error:\", error);",
    "            \x7d",
    "        \x7d;",
    "        reader.readAsText(file);",
    "    \x7d",
    "\x7d",
    "",
    "",
    "",
    "",
    "// Function to evaluate an XPath expression and return matching nodes",
    "function evaluateXPath(xmlDoc, xpath) \x7b",
    "    const xpathResult = [];",
    "    const evaluator = new XPathEvaluator();",
    "    const result = evaluator.evaluate(xpath, xmlDoc, null, XPathResult.ORDERED_NODE_SNAPSHOT_TYPE, null);",
    "",
    "    for (let i = 0; i < result.snapshotLength; i++) \x7b",
    "        xpathResult.push(result.snapshotItem(i));",
    "    \x7d",
    "    return xpathResult;",
    "\x7d",
    "",
    ""]

end SketchGen.Web.Asset
