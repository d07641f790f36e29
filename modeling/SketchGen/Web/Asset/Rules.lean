namespace SketchGen.Web.Asset

/-! The JSON rule sets the front end applies to models. -/

def cimPimRules : String :=
  "\n".intercalate [
    "\x7b",
    "    \"modifications\": [",
    "        \x7b",
    "            \"xpath\": \"//object[@type='agent' or @type='role' or @type='actor']\",",
    "            \"attributes\": [",
    "                \x7b",
    "                    \"name\": \"is_a_cpc\",",
    "                    \"options\": [",
    "                        \"true\",",
    "                        \"false\"",
    "                    ],",
    "                    \"statement\": \"Is this element a Cyber Physical Component(CPC)?\",",
    "                    \"additionalAttribute\": \x7b",
    "                        \"conditional\": \"true\",",
    "                        \"attribute\": \x7b",
    "                            \"name\": \"description\",",
    "                            \"freeTextArea\": true,",
    "                            \"statement\": \"Why is it a CPC?\"",
    "                        \x7d",
    "                    \x7d",
    "                \x7d",
    "            ]",
    "        \x7d,",
    "        \x7b",
    "            \"xpath\": \"//object[@type='goal' and not(mxCell/@parent='1')]\",",
    "            \"attributes\": [",
    "                \x7b",
    "                    \"name\": \"interval_in_milliseconds\",",
    "                    \"number\": true,",
    "                    \"statement\": \"What's the frequency this goal gets checked for success(in miliseconds)?\"",
    "                \x7d,",
    "                \x7b",
    "                    \"name\": \"operation_modes_enabled\",",
    "                    \"options\": [",
    "                        \"false\",",
    "                        \"true\"",
    "                    ],",
    "                    \"statement\": \"Does the goal operate with discrete operation modes?\",",
    "                    \"additionalAttribute\": \x7b",
    "                        \"conditional\": \"true\",",
    "                        \"attribute\": \x7b",
    "                            \"name\": \"operation_modes_description\",",
    "                            \"freeTextArea\": true,",
    "                            \"statement\": \"Please describe the operational modes\"",
    "                        \x7d",
    "                    \x7d",
    "                \x7d",
    "            ]",
    "        \x7d,",
    "        \x7b",
    "            \"xpath\": \"//object[@type='resource' and not(mxCell/@parent='1')]\",",
    "            \"attributes\": [",
    "                \x7b",
    "                    \"name\": \"resource_type\",",
    "                    \"options\": [",
    "                        \"software\",",
    "                        \"hardware\"",
    "                    ],",
    "                    \"statement\": \"What type of resource is this?\",",
    "                    \"additionalAttribute\": \x7b",
    "                        \"conditional\": \"software\",",
    "                        \"attribute\": \x7b",
    "                            \"name\": \"data_structure\",",
    "                            \"parametersTable\": \x7b",
    "                                \"headers\": [",
    "                                    \"name\",",
    "                                    \"description\"",
    "                                ]",
    "                            \x7d,",
    "                            \"statement\": \"What are the variables for the data structure of this software resource?\"",
    "                        \x7d",
    "                    \x7d",
    "                \x7d",
    "            ]",
    "        \x7d,",
    "        \x7b",
    "            \"xpath\": \"//object[(@type='task') and not(mxCell/@parent='1')]\",",
    "            \"attributes\": [",
    "                \x7b",
    "                    \"name\": \"input_parameters\",",
    "                    \"parametersTable\": \x7b",
    "                        \"headers\": [",
    "                            \"name\",",
    "                            \"description\"",
    "                        ]",
    "                    \x7d,",
    "                    \"statement\": \"What are the input parameters for this task?\"",
    "                \x7d,",
    "                \x7b",
    "                    \"name\": \"output_parameters\",",
    "                    \"parametersTable\": \x7b",
    "                        \"headers\": [",
    "                            \"name\",",
    "                            \"description\"",
    "                        ]",
    "                    \x7d,",
    "                    \"statement\": \"What are the output parameters for this task?\"",
    "                \x7d,",
    "                \x7b",
    "                    \"name\": \"operation_modes_enabled\",",
    "                    \"options\": [",
    "                        \"false\",",
    "                        \"true\"",
    "                    ],",
    "                    \"statement\": \"Does the task operate with discrete operation modes?\",",
    "                    \"additionalAttribute\": \x7b",
    "                        \"conditional\": \"true\",",
    "                        \"attribute\": \x7b",
    "                            \"name\": \"operation_modes_description\",",
    "                            \"freeTextArea\": true,",
    "                            \"statement\": \"Please describe the operational modes\"",
    "                        \x7d",
    "                    \x7d",
    "                \x7d",
    "            ]",
    "        \x7d,",
    "        \x7b",
    "            \"xpath\": \"//object[(@type='resource' or @type='softgoal' or @type='goal' or @type='task') and (mxCell/@parent='1')]\",",
    "            \"attributes\": [",
    "                \x7b",
    "                    \"name\": \"dependum_data_structure\",",
    "                    \"parametersTable\": \x7b",
    "                        \"headers\": [",
    "                            \"name\",",
    "                            \"description\"",
    "                        ]",
    "                    \x7d,",
    "                    \"statement\": \"What's the data structure of this dependum?\"",
    "                \x7d,",
    "                \x7b",
    "                    \"name\": \"interval_in_milliseconds\",",
    "                    \"number\": true,",
    "                    \"statement\": \"What's the frequency of the communications between the dependee and depender(in milliseconds)?\"",
    "                \x7d,",
    "                \x7b",
    "                    \"name\": \"operation_modes_enabled\",",
    "                    \"options\": [",
    "                        \"false\",",
    "                        \"true\"",
    "                    ],",
    "                    \"statement\": \"Does the communication require discrete operation modes?\",",
    "                    \"additionalAttribute\": \x7b",
    "                        \"conditional\": \"true\",",
    "                        \"attribute\": \x7b",
    "                            \"name\": \"operation_modes_description\",",
    "                            \"freeTextArea\": true,",
    "                            \"statement\": \"Please describe the operation modes\"",
    "                        \x7d",
    "                    \x7d",
    "                \x7d",
    "            ]",
    "        \x7d",
    "    ]",
    "\x7d"]

def pimPsmRules : String :=
  "\n".intercalate [
    "\x7b",
    "    \"modifications\": [",
    "        \x7b",
    "            \"xpath\": \"//object[@type='comm_thread']\",",
    "            \"attributes\": [",
    "                \x7b",
    "                    \"name\": \"operation_modes\",",
    "                    \"statement\": \"What are the operation modes under which this communication operates?\",",
    "                    \"hint\": \x7b",
    "                        \"header\": \"These are the recommendations for the operation modes\",",
    "                        \"elements\" : [",
    "                            \"operation_modes_description\" ",
    "                        ]",
    "                    \x7d,",
    "                    \"conditional\": \x7b",
    "                        \"operation_modes_enabled\" :\"true\"",
    "                    \x7d,",
    "                    \"parametersTable\": \x7b",
    "                        \"headers\": [",
    "                            \"code\",",
    "                            \"name\",",
    "                            \"description\"",
    "                        ],",
    "                        \"sequence_values\": \x7b",
    "                            \"code\" : 0",
    "                        \x7d",
    "                    \x7d",
    "                    ",
    "                \x7d,",
    "                \x7b",
    "                    \"name\": \"data_structure_psm\",",
    "                    \"parametersTable\": \x7b",
    "                        \"headers\": [",
    "                            \"name\",",
    "                            \"description\",",
    "                            \"type\"",
    "                        ],",
    "                        \"dropdown_box_values\": \x7b",
    "                            \"type\": [\"int\", \"double\", \"string\", \"char[50]\", \"bool\"]",
    "                        \x7d",
    "                    \x7d,",
    "                    \"statement\": \"What are the variable types of this dependum's data structure?\",",
    "                    \"derivate_from\": \"dependum_data_structure\" ",
    "                \x7d",
    "            ]",
    "        \x7d,",
    "        \x7b",
    "            \"xpath\": \"//object[@type='action']\",",
    "            \"attributes\": [",
    "                \x7b",
    "                    \"name\": \"input_parameters_psm\",",
    "                    \"parametersTable\": \x7b",
    "                        \"headers\": [",
    "                            \"name\",",
    "                            \"description\",",
    "                            \"type\"",
    "                        ],",
    "                        \"dropdown_box_values\": \x7b",
    "                            \"type\": [\"int\", \"double\", \"string\", \"char[50]\", \"bool\"]",
    "                        \x7d",
    "                    \x7d,",
    "                    \"statement\": \"What are the variable types of these input parameters?\",",
    "                    \"derivate_from\": \"input_parameters\" ",
    "                \x7d,",
    "                \x7b",
    "                    \"name\": \"output_parameters_psm\",",
    "                    \"parametersTable\": \x7b",
    "                        \"headers\": [",
    "                            \"name\",",
    "                            \"description\",",
    "                            \"type\"",
    "                        ],",
    "                        \"dropdown_box_values\": \x7b",
    "                            \"type\": [\"int\", \"double\", \"string\", \"char[50]\"]",
    "                        \x7d",
    "                    \x7d,",
    "                    \"statement\": \"What are the variable types of these output parameters?\",",
    "                    \"derivate_from\": \"output_parameters\" ",
    "                \x7d,",
    "                \x7b",
    "                    \"name\": \"operation_modes\",",
    "                    \"statement\": \"What are the operation modes under which this action operates?\",",
    "                    \"hint\": \x7b",
    "                        \"header\": \"These are the recommendations for the operation modes\",",
    "                        \"elements\" : [",
    "                            \"operation_modes_description\" ",
    "                        ]",
    "                    \x7d,",
    "                    \"conditional\": \x7b",
    "                        \"operation_modes_enabled\" :\"true\"",
    "                    \x7d,",
    "                    \"parametersTable\": \x7b",
    "                        \"headers\": [",
    "                            \"code\",",
    "                            \"name\",",
    "                            \"description\"",
    "                        ],",
    "                        \"sequence_values\": \x7b",
    "                            \"code\" : 0",
    "                        \x7d",
    "                    \x7d",
    "                    ",
    "                \x7d",
    "            ]",
    "        \x7d,",
    "        \x7b",
    "            \"xpath\": \"//object[@type='operational_goal']\",",
    "            \"attributes\": [",
    "                \x7b",
    "                    \"name\": \"operation_modes\",",
    "                    \"statement\": \"What are the operation modes under which this goal operates?\",",
    "                    \"hint\": \x7b",
    "                        \"header\": \"These are the recommendations for the operation modes\",",
    "                        \"elements\" : [",
    "                            \"operation_modes_description\" ",
    "                        ]",
    "                    \x7d,",
    "                    \"conditional\": \x7b",
    "                        \"operation_modes_enabled\" :\"true\"",
    "                    \x7d,",
    "                    \"parametersTable\": \x7b",
    "                        \"headers\": [",
    "                            \"code\",",
    "                            \"name\",",
    "                            \"description\"",
    "                        ],",
    "                        \"sequence_values\": \x7b",
    "                            \"code\" : 0",
    "                        \x7d",
    "                    \x7d",
    "                    ",
    "                \x7d",
    "            ]",
    "        \x7d,",
    "        \x7b",
    "            \"xpath\": \"//object[@type='hw_resource']\",",
    "            \"attributes\": [",
    "                \x7b",
    "                    \"name\": \"integration_operation_description\",",
    "                    \"freeTextArea\": true,",
    "                    \"statement\": \"What is the way this hardware resource should be integrated and operated?\",",
    "                    \"hint\": \x7b",
    "                        \"header\": \"These are the qualifications and contributions related to this resource\",",
    "                        \"elements\" : [",
    "                            \"qualification_array\",",
    "                            \"contribution_array\" ",
    "                        ]",
    "                    \x7d",
    "                \x7d",
    "            ]",
    "        \x7d,",
    "        \x7b",
    "            \"xpath\": \"//object[@type='sw_resource']\",",
    "            \"attributes\": [",
    "                \x7b",
    "                    \"name\": \"data_structure_psm\",",
    "                    \"parametersTable\": \x7b",
    "                        \"headers\": [",
    "                            \"name\",",
    "                            \"description\",",
    "                            \"type\"",
    "                        ],",
    "                        \"dropdown_box_values\": \x7b",
    "                            \"type\": [\"int\", \"double\", \"string\", \"char[50]\", \"bool\"]",
    "                        \x7d",
    "                    \x7d,",
    "                    \"statement\": \"What are the variable types of this data structure?\",",
    "                    \"derivate_from\": \"data_structure\" ",
    "                \x7d",
    "            ]",
    "        \x7d",
    "    ]",
    "\x7d"]

end SketchGen.Web.Asset
