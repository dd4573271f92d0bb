/-!
# YAML errors

Why a text is no YAML. Their wording is left open.
-/

namespace SelectQuery.Yaml

inductive SyntaxError where
  | forbiddenCharacter
  | badIndentation
  | unfinishedScalar
  | badEscape
  | badBlockHeader
  | badDirective
  | badAnchor
  | badTag
  | unexpectedCharacter
  | keyWithoutColon
  | entryNotAllowed
  | unexpectedToken
  | undefinedAlias
  | duplicateKey
  | numberTooLarge
  | tooDeep
  deriving DecidableEq

end SelectQuery.Yaml
