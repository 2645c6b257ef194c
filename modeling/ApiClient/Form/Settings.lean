import ApiClient.Form.Scalar
import ApiClient.Settings

/-!
Reading settings out of a tree.

Every setting but the name of the module file has a default.
-/

set_option autoImplicit false

namespace ApiClient.Form

/-- A forced type. -/
def typeMapping : Data → Verdict TypeMapping :=
  ofData (TypeMapping.mk <$> required "webApiTypeName" "web_api_type_name" text
    <*> required "typeScriptTypeName" "type_script_type_name" text
    <*> optional "treatAsAttribute" "treat_as_attribute" false bool
    <*> optional "treatAsConstraint" "treat_as_constraint" false bool
    <*> optional "autoInitialize" "auto_initialize" false bool)

/-- The settings of a document, whose names start with the document's. -/
def output (document fileName namespaceName : String) : Form Data Output :=
  Output.mk <$> optional (document ++ "OutputDirectory") (document ++ "_output_directory") none
      (nullable text)
    <*> optional (document ++ "FileName") (document ++ "_file_name") fileName text
    <*> optional (document ++ "Namespace") (document ++ "_namespace") namespaceName text

/-- The settings of a run. -/
def settings : Data → Verdict Settings :=
  ofData (Settings.mk <$> required "webApiModuleFileName" "web_api_module_file_name" text
    <*> output "endpoints" "Endpoints.ts" "Endpoints"
    <*> output "service" "Service.ts" "Endpoints"
    <*> optional "generateEnums" "generate_enums" true bool
    <*> output "enums" "Enums.ts" "Enums"
    <*> optional "generateInterfaces" "generate_interfaces" false bool
    <*> output "interfaces" "Interfaces.ts" "Interfaces"
    <*> optional "scanOtherModules" "scan_other_modules" true bool
    <*> optional "writeNamespaceAsModule" "write_namespace_as_module" false bool
    <*> optional "typeMappings" "type_mappings" [] (list typeMapping))

end ApiClient.Form
