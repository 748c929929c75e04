import LintServer.Protocol.Shape

set_option autoImplicit false

namespace LintServer.Capabilities

open Shape

abbrev Members := List (Text × Shape)

def flags (names : List Text) : Members := names.map fun name => (name, .bool)

def withFlags (names : List Text) (members : Members) : Members := members ++ flags names

def feature (members : Members) : Shape := .object (("dynamicRegistration", .bool) :: members)

def texts : Shape := .list .text

def values : Shape := .object [("valueSet", .list .int32)]

def properties : Shape := .object [("properties", texts)]

def workspaceEdit : Shape :=
  .object (withFlags ["documentChanges", "normalizesLineEndings"] [
    ("resourceOperations", texts),
    ("failureHandling", .text),
    ("changeAnnotationSupport", .object (flags ["groupsOnLabel"]))])

def workspace : Shape :=
  .object (withFlags ["applyEdit", "workspaceFolders", "configuration"] [
    ("workspaceEdit", workspaceEdit),
    ("didChangeConfiguration", feature []),
    ("didChangeWatchedFiles", feature []),
    ("symbol", feature [("symbolKind", values), ("tagSupport", values)]),
    ("executeCommand", feature []),
    ("semanticTokens", .object (flags ["refreshSupport"])),
    ("codeLens", .object (flags ["refreshSupport"])),
    ("fileOperations", feature (flags
      ["didCreate", "willCreate", "didRename", "willRename", "didDelete", "willDelete"]))])

def completionItem : Shape :=
  .object (withFlags ["snippetSupport", "commitCharactersSupport", "deprecatedSupport",
      "preselectSupport", "insertReplaceSupport"] [
    ("documentationFormat", texts),
    ("tagSupport", values),
    ("resolveSupport", properties),
    ("insertTextModeSupport", values)])

def signatureInformation : Shape :=
  .object [
    ("documentationFormat", texts),
    ("parameterInformation", .object (flags ["labelOffsetSupport"])),
    ("activeParameterSupport", .bool)]

def codeAction : Shape :=
  feature (withFlags
      ["isPreferredSupport", "disabledSupport", "dataSupport", "honorsChangeAnnotations"] [
    ("codeActionLiteralSupport", .object [("codeActionKind", .object [("valueSet", texts)])]),
    ("resolveSupport", properties)])

def semanticTokens : Shape :=
  .gathered "requests" [
      ("range", .either .bool (.object [])),
      ("full", .either .bool (.object (flags ["delta"])))]
    (withFlags ["dynamicRegistration", "overlappingTokenSupport", "multilineTokenSupport"] [
      ("tokenTypes", texts),
      ("tokenModifiers", texts),
      ("formats", texts)])

def linked : List Text := ["declaration", "definition", "typeDefinition", "implementation"]

def plain : List Text :=
  ["references", "documentHighlight", "codeLens", "colorProvider", "formatting", "rangeFormatting",
    "onTypeFormatting", "selectionRange", "linkedEditingRange", "callHierarchy", "moniker"]

def features : Members := [
  ("synchronization", feature (flags ["willSave", "willSaveWaitUntil", "didSave"])),
  ("completion", feature [
    ("completionItem", completionItem),
    ("completionItemKind", values),
    ("contextSupport", .bool)]),
  ("hover", feature [("contentFormat", texts)]),
  ("signatureHelp", feature [
    ("signatureInformation", signatureInformation),
    ("contextSupport", .bool)]),
  ("documentSymbol", feature (withFlags ["hierarchicalDocumentSymbolSupport", "labelSupport"] [
    ("symbolKind", values),
    ("tagSupport", values)])),
  ("codeAction", codeAction),
  ("documentLink", feature (flags ["tooltipSupport"])),
  ("rename", feature (("prepareSupportDefaultBehavior", .int32) ::
    flags ["prepareSupport", "honorsChangeAnnotations"])),
  ("publishDiagnostics", .object (("tagSupport", values) ::
    flags ["relatedInformation", "versionSupport", "codeDescriptionSupport", "dataSupport"])),
  ("foldingRange", feature [("rangeLimit", .uint32), ("lineFoldingOnly", .bool)]),
  ("semanticTokens", semanticTokens)]

def textDocument : Shape :=
  .object (features ++
    linked.map (fun name => (name, feature (flags ["linkSupport"]))) ++
    plain.map (fun name => (name, feature [])))

def window : Shape :=
  .object [
    ("workDoneProgress", .bool),
    ("showMessage", .object [
      ("messageActionItem", .object (flags ["additionalPropertiesSupport"]))]),
    ("showDocument", .object (flags ["support"]))]

def general : Shape :=
  .object [
    ("regularExpressions", .object [("engine", .text), ("version", .text)]),
    ("markdown", .object [("parser", .text), ("version", .text)])]

def shape : Shape :=
  .object [
    ("workspace", workspace),
    ("textDocument", textDocument),
    ("window", window),
    ("general", general),
    ("experimental", .any)]

end LintServer.Capabilities
