namespace SketchGen.Web.Asset

/-! The style sheet of the front end page. -/

def styleSheet : String :=
  "\n".intercalate [
    "body \x7b",
    "    font-family: Arial, sans-serif;",
    "    padding: 20px;",
    "    background-color: #1e1e2f;",
    "    margin: 0;",
    "    height: 100vh; /* Full height */",
    "    display: flex;",
    "    flex-direction: column;",
    "\x7d",
    "",
    "h1 \x7b",
    "    text-align: center;",
    "    margin-bottom: 20px;",
    "    font-size: 2rem;",
    "\x7d",
    "",
    ".horizontal-container \x7b",
    "    display: flex;",
    "    flex: 1; /* Take remaining space */",
    "\x7d",
    "",
    ".vertical-container \x7b",
    "    display: flex;",
    "    flex-direction: column;",
    "    padding: 10px;",
    "    border: 1px solid #444; /* Border for aesthetic separation */",
    "    background-color: #2b2b3d; /* White background for containers */",
    "    box-shadow: 0 2px 10px rgba(0, 0, 0, 0.3); /* Slight shadow for depth */",
    "\x7d",
    "",
    ".xsl-container \x7b",
    "    width: 250px; /* Fixed width for XSL container */",
    "    min-width: 200px; /* Min width for responsiveness */",
    "\x7d",
    "",
    ".xml-container \x7b",
    "    flex: 1; /* Take remaining width */",
    "    display: flex;",
    "    flex-direction: column;",
    "\x7d",
    "",
    "/* The container for the JSON area */",
    ".json-area \x7b",
    "    margin-bottom: 10px;",
    "\x7d",
    "",
    "/* The button container to center the button below the json upload */",
    ".button-container \x7b",
    "    display: flex;",
    "    justify-content: center; /* Horizontally center the button */",
    "    width: 250px; /* Fixed width for XSL container */",
    "    min-width: 200px; /* Min width for responsiveness */",
    "    margin-top: 10px; /* Space between the upload and button */",
    "\x7d",
    "",
    "/* Apply button styling */",
    ".apply-rules-btn \x7b",
    "    padding: 10px;",
    "    width: 100%;",
    "    background-color: #007BFF;",
    "    color: white;",
    "    border: none;",
    "    cursor: pointer;",
    "    transition: background-color 0.3s;",
    "\x7d",
    "",
    ".apply-rules-btn:hover \x7b",
    "    background-color: #0056b3;",
    "\x7d",
    "",
    ".input-area, .output-area \x7b",
    "    flex: 1; /* Take equal space */",
    "    display: flex;",
    "    flex-direction: column; /* Stack elements vertically */",
    "    justify-content: flex-start; /* Align items at the top */",
    "\x7d",
    "",
    ".file-upload \x7b",
    "    display: flex;",
    "    flex-direction: column;",
    "    margin: 10px 0;",
    "\x7d",
    "",
    ".file-upload input[type=\"file\"] \x7b",
    "    display: none;",
    "\x7d",
    "",
    ".file-upload button \x7b",
    "    padding: 10px;",
    "    background-color: #007BFF;",
    "    color: white;",
    "    border: none;",
    "    cursor: pointer;",
    "    transition: background-color 0.3s;",
    "    font-size: 12px;",
    "\x7d",
    "",
    ".file-upload button:hover \x7b",
    "    background-color: #0056b3;",
    "\x7d",
    "",
    "textarea \x7b",
    "    flex: 1; /* Allow textareas to stretch */",
    "    padding: 10px;",
    "    border: 1px solid #444;",
    "    border-radius: 4px;",
    "    resize: none; /* Prevent resizing */",
    "\x7d",
    "",
    "textarea#inputXML \x7b",
    "    flex-grow: 1; /* Ensure the input area stretches */",
    "    background-color: #1e1e2f;",
    "    color: #ffffffda;",
    "\x7d",
    "",
    "textarea#outputXML \x7b",
    "    flex-grow: 1; /* Ensure the output area stretches */",
    "    background-color: #1e1e2f;",
    "    color: #ffffffda;",
    "\x7d",
    "",
    ".transform-btn \x7b",
    "    padding: 10px;",
    "    margin: 10px 0; /* Centered in vertical container */",
    "    background-color: #28a745;",
    "    color: white;",
    "    border: none;",
    "    cursor: pointer;",
    "    transition: background-color 0.3s;",
    "    width: 100%; /* Stretch button horizontally */",
    "\x7d",
    "",
    ".transform-btn:hover \x7b",
    "    background-color: #218838;",
    "\x7d",
    "",
    ".download-btn \x7b",
    "    padding: 10px;",
    "    margin: 10px 0;",
    "    background-color: #17a2b8;",
    "    color: white;",
    "    border: none;",
    "    cursor: pointer;",
    "    transition: background-color 0.3s;",
    "\x7d",
    "",
    ".download-btn:hover \x7b",
    "    background-color: #138496;",
    "\x7d",
    "",
    "/* Responsive Design */",
    "@media (max-width: 768px) \x7b",
    "    .input-area \x7b",
    "        flex-direction: column;",
    "    \x7d",
    "",
    "    h1 \x7b",
    "        font-size: 1.8rem;",
    "    \x7d",
    "",
    "    textarea \x7b",
    "        height: 120px;",
    "    \x7d",
    "\x7d",
    "",
    "@media (max-width: 480px) \x7b",
    "    body \x7b",
    "        padding: 10px;",
    "    \x7d",
    "",
    "    h1 \x7b",
    "        font-size: 1.5rem;",
    "    \x7d",
    "",
    "    .file-upload button \x7b",
    "        padding: 8px;",
    "    \x7d",
    "",
    "    .transform-btn, .download-btn \x7b",
    "        padding: 8px;",
    "    \x7d",
    "",
    "    textarea \x7b",
    "        height: 100px;",
    "    \x7d",
    "\x7d",
    "",
    ".xsl-area \x7b",
    "    margin-bottom: 10px;",
    "\x7d",
    "",
    ".fileList \x7b",
    "    list-style-type: none;",
    "    padding: 0;",
    "    text-align: right;",
    "\x7d",
    "",
    ".fileList li \x7b",
    "    margin-bottom: 10px;",
    "\x7d",
    "",
    ".fileList button \x7b",
    "    margin-left: 10px;",
    "    background-color: #dc3545;",
    "    color: white;",
    "    border: none;",
    "    padding: 5px;",
    "    cursor: pointer;",
    "\x7d",
    "",
    ".fileList button:hover \x7b",
    "    background-color: #c82333;",
    "\x7d",
    "",
    "/* Modal styles */",
    ".modal \x7b",
    "    display: none;",
    "    position: fixed;",
    "    z-index: 1;",
    "    left: 0;",
    "    top: 0;",
    "    width: 100%;",
    "    height: 100%;",
    "    overflow: auto;",
    "    background-color: rgba(0, 0, 0, 0.4);",
    "\x7d",
    "",
    ".modal-content \x7b",
    "    background-color: #1e1e2f;",
    "    margin: 5% auto;",
    "    padding: 20px;",
    "    border: 1px solid #888;",
    "    width: 80%;",
    "    max-height: 80%;",
    "    text-align: center;",
    "    overflow-y: auto;",
    "\x7d",
    "",
    ".close \x7b",
    "    color: #aaa;",
    "    float: right;",
    "    font-size: 28px;",
    "    font-weight: bold;",
    "    cursor: pointer;",
    "\x7d",
    "",
    "/* Modal Form Styling */",
    ".modal-form \x7b",
    "    padding: 20px;",
    "    background-color: #2b2b3d;",
    "    border-radius: 8px;",
    "    font-family: Arial, sans-serif;",
    "    color: #333;",
    "    max-width: 600px;",
    "    text-align: left;",
    "    margin: 0 auto;",
    "\x7d",
    "",
    "/* Modal Fieldset Styling */",
    ".modal-fieldset \x7b",
    "    border: 1px solid #ddd;",
    "    padding: 15px;",
    "    margin-bottom: 20px;",
    "    border-radius: 5px;",
    "    background-color: #222230;",
    "\x7d",
    "",
    ".modal-legend \x7b",
    "    font-size: 1.2em;",
    "    font-weight: bold;",
    "    margin-bottom: 10px;",
    "    color: #4a90e2;",
    "\x7d",
    "",
    "/* Label and Input Styling */",
    ".modal-label,",
    ".modal-question-label \x7b",
    "    display: block;",
    "    margin-top: 10px;",
    "    font-weight: bold;",
    "    color: #ddd;",
    "\x7d",
    "",
    ".modal-text-input,",
    ".modal-number-input,",
    ".modal-select,",
    ".modal-textarea,",
    ".modal-parameters-table-input \x7b",
    "    width: calc(100% - 12px);  /* Adjusted width to fit within cell */",
    "    padding: 4px;               /* Reduced padding for a tighter fit */",
    "    color: white;",
    "    border: 1px solid #444;",
    "    background-color: #1e1e2f;",
    "    border-radius: 3px;",
    "    box-sizing: border-box;     /* Ensures padding and border are included in width */",
    "\x7d",
    "",
    ".modal-textarea-uneditable \x7b",
    "    width: calc(100% - 12px);  /* Adjusted width to fit within cell */",
    "    padding: 4px;               /* Reduced padding for a tighter fit */",
    "    color: #cfcfd3;",
    "    border: 1px solid #444;",
    "    background-color: #636364;",
    "    border-radius: 3px;",
    "    box-sizing: border-box;     /* Ensures padding and border are included in width */",
    "\x7d",
    "",
    ".modal-select \x7b",
    "    padding: 5px;",
    "\x7d",
    "",
    "/* Parameters Table Styling */",
    ".modal-parameters-table-container \x7b",
    "    margin-top: 10px;",
    "\x7d",
    "",
    ".modal-parameters-table \x7b",
    "    width: 100%;",
    "    border-collapse: collapse;",
    "    margin-top: 5px;",
    "\x7d",
    "",
    ".modal-parameters-table-header \x7b",
    "    background-color: #0dc7e7;",
    "    color: #fff;",
    "    padding: 8px;",
    "    text-align: center;",
    "    font-weight: bold;",
    "\x7d",
    "",
    ".modal-parameters-table-cell \x7b",
    "    padding: 4px;",
    "\x7d",
    "",
    ".modal-parameters-table-input \x7b",
    "    width: 100%;",
    "    padding: 5px;",
    "    border: 1px solid #ccc;",
    "    border-radius: 3px;",
    "\x7d",
    "",
    "/* Add Row Button Styling */",
    ".modal-add-row-button \x7b",
    "    margin-top: 10px;",
    "    padding: 8px 12px;",
    "    background-color: #4a90e2;",
    "    color: #fff;",
    "    border: none;",
    "    border-radius: 4px;",
    "    cursor: pointer;",
    "    font-weight: bold;",
    "\x7d",
    "",
    ".modal-add-row-button:hover \x7b",
    "    background-color: #357ab8;",
    "\x7d",
    "",
    "/* Additional Attribute Styling */",
    ".modal-additional-label \x7b",
    "    margin-top: 15px;",
    "\x7d",
    "",
    ".modal-additional-input \x7b",
    "    margin-top: 5px;",
    "\x7d",
    "",
    ".modal-submit-button \x7b",
    "    margin-top: 10px;",
    "    padding: 8px 12px;",
    "    background-color: #326094;",
    "    color: #fff;",
    "    border: none;",
    "    border-radius: 4px;",
    "    cursor: pointer;",
    "    font-weight: bold;",
    "\x7d",
    "",
    "/* Remove Row Button Styling */",
    ".modal-remove-row-button \x7b",
    "    background-color: #dc3545;",
    "    color: #fff;",
    "    border: none;",
    "    padding: 4px 8px;",
    "    font-size: 1em;",
    "    font-weight: bold;",
    "    border-radius: 3px;",
    "    cursor: pointer;",
    "    text-align: center;",
    "\x7d",
    "",
    ".modal-remove-row-button:hover \x7b",
    "    background-color: #c82333;",
    "\x7d",
    "",
    ".modal-hint-header \x7b",
    "    display: block;",
    "    margin-top: 10px;",
    "    font-weight: bold;",
    "    color: #ddd;",
    "  \x7d",
    "",
    "/* Styling for the PSM preset area */",
    ".psm-preset-area \x7b",
    "    display: none;",
    "    flex-direction: column; /* Stack the select elements vertically */",
    "    margin: 10px 0; /* Add some space around the section */",
    "    padding: 15px; /* Add some padding for spacing */",
    "    border: 1px solid #444; /* Border to make the section distinct */",
    "    border-radius: 5px; /* Slightly rounded corners */",
    "    background-color: #27273d; /* Light background color for the section */",
    "\x7d",
    "",
    "/* Style for labels inside the PSM preset area */",
    ".psm-preset-area label \x7b",
    "    font-size: 14px; /* Make the text slightly smaller for better readability */",
    "    margin-bottom: 5px; /* Space between label and select box */",
    "    color: white; /* Darker text color for better contrast */",
    "\x7d",
    "",
    "/* Style for select inputs */",
    ".psm-preset-area select \x7b",
    "    padding: 10px;",
    "    font-size: 14px;",
    "    border: 1px solid #444;",
    "    border-radius: 5px;",
    "    background-color: #1e1e2f;",
    "    color: white;",
    "    margin-bottom: 15px; /* Space between select inputs */",
    "    width: 100%; /* Make sure the select elements take up the full width */",
    "    box-sizing: border-box; /* Include padding and border in width */",
    "\x7d",
    "",
    "/* Add a hover effect for the select inputs */",
    ".psm-preset-area select:hover \x7b",
    "    border-color: #007BFF; /* Change border color on hover */",
    "\x7d",
    "",
    "/* Add focus effect for the select inputs */",
    ".psm-preset-area select:focus \x7b",
    "    border-color: #0056b3; /* Change border color when focused */",
    "    outline: none; /* Remove default outline */",
    "\x7d",
    "",
    "/* Optional: Adjust for mobile responsiveness */",
    "@media (max-width: 600px) \x7b",
    "    .psm-preset-area \x7b",
    "        padding: 10px; /* Less padding on small screens */",
    "    \x7d",
    "",
    "    .psm-preset-area select \x7b",
    "        font-size: 16px; /* Slightly larger font for better touch interactions */",
    "    \x7d",
    "\x7d",
    "",
    "/* Styling for the PSM preset area */",
    ".preset-container \x7b",
    "    display: flex;",
    "    flex-direction: column; /* Stack the select elements vertically */",
    "    margin: 10px 0; /* Add some space around the section */",
    "    padding: 15px; /* Add some padding for spacing */",
    "    border: 1px solid #444; /* Border to make the section distinct */",
    "    border-radius: 5px; /* Slightly rounded corners */",
    "    background-color: #27273d; /* Light background color for the section */",
    "    text-align: center;",
    "\x7d",
    "",
    "input[type=\"radio\"] \x7b",
    "    appearance: none;",
    "    width: 12px;",
    "    height: 12px;",
    "    border: 2px solid white; /* Base ring color */",
    "    border-radius: 50%;",
    "    background-color: transparent;",
    "    display: inline-block;",
    "    position: relative;",
    "    cursor: pointer;",
    "    outline: none;",
    "    transition: all 0.3s ease;",
    "\x7d",
    "",
    "input[type=\"radio\"]::after \x7b",
    "    content: '';",
    "    width: 6px; /* Adjust size of the inner dot */",
    "    height: 6px;",
    "    background-color: white; /* Checked mark color */",
    "    border-radius: 50%;",
    "    position: absolute;",
    "    top: 50%;",
    "    left: 50%;",
    "    transform: translate(-50%, -50%) scale(0); /* Start hidden */",
    "    transition: all 0.3s ease;",
    "\x7d",
    "",
    "input[type=\"radio\"]:checked \x7b",
    "    background-color: transparent; /* Optional */",
    "    border-color: white; /* Ensure consistent border for checked state */",
    "\x7d",
    "",
    "input[type=\"radio\"]:checked::after \x7b",
    "    transform: translate(-50%, -50%) scale(1); /* Show inner dot */",
    "\x7d",
    "",
    "",
    ".preset-container h3 \x7b",
    "    color: white;",
    "\x7d",
    "",
    "/* Style for labels inside the PSM preset area */",
    ".preset-container label \x7b",
    "    font-size: 16px; /* Make the text slightly smaller for better readability */",
    "    margin-bottom: 5px; /* Space between label and select box */",
    "    color: white; /* Darker text color for better contrast */",
    "\x7d",
    "",
    ".modal-parameters-table-container \x7b",
    "    text-align: center;",
    "\x7d",
    "",
    "/* Optional: Adjust for mobile responsiveness */",
    "@media (max-width: 600px) \x7b",
    "    .preset-container \x7b",
    "        padding: 10px; /* Less padding on small screens */",
    "    \x7d",
    "",
    "    .preset-container select \x7b",
    "        font-size: 16px; /* Slightly larger font for better touch interactions */",
    "    \x7d",
    "\x7d",
    "",
    ""]

end SketchGen.Web.Asset
