/-
This file holds the causes for which a text is refused, and their words.
-/
import Stencil.Directive.Basic
import Stencil.Text.Escape
import Stencil.Text.Quoted
import Stencil.Token.Basic

namespace Stencil

/-- A place is a line number and a byte column, both from zero. -/
structure Place where
  line : Nat
  column : Nat
  deriving Repr, DecidableEq

/-- A character is refused before the directives are read. -/
inductive LexicalFault where
  | unexpected (character : Char)
  | tab
  deriving Repr, DecidableEq

/-- The tokens of a line do not follow the directive grammar. -/
inductive GrammarFault where
  | expected (wanted found : Token.Kind)
  | unknownFlag (word : Text)
  | badName (quoted : Text) (fault : Text.Quoted.Fault)
  deriving Repr, DecidableEq

/-- The directives are well formed and break a rule of the file's structure. -/
inductive StructureFault where
  | strayEnd
  | neverClosed
  | expectedDefine (found : Keyword)
  | misplacedDefine
  | emptyName
  | duplicateName (name : Text)
  | insideInsert
  | badPattern (pattern : Text)
  | underIndented (indentation base : Nat)
  deriving Repr, DecidableEq

/-- The three marker words of a configuration. -/
inductive MarkerField where
  | regionStart
  | regionEnd
  | template
  deriving Repr, DecidableEq

/-- A configuration is no document, or its words cannot serve as markers. -/
inductive ConfigFault where
  | malformed
  | notWord (field : MarkerField) (value : Text)
  | sameWords
  deriving Repr, DecidableEq

/-- An error says why an input is refused. -/
inductive Error where
  | lexical (place : Place) (fault : LexicalFault)
  | grammar (place : Place) (fault : GrammarFault)
  | structural (place : Place) (fault : StructureFault)
  | range (start stop size : Nat)
  | config (fault : ConfigFault)
  | notUtf8
  deriving Repr, DecidableEq

/-- The words for a lexical fault. -/
def LexicalFault.message : LexicalFault → String
  | .unexpected character =>
      "unexpected character `" ++ String.ofList (Text.escape character) ++ "`"
  | .tab => "tab characters are not allowed in templates"

/-- The words for a grammar fault. -/
def GrammarFault.message : GrammarFault → String
  | .expected wanted found => "expected " ++ wanted.description ++ ", found " ++ found.description
  | .unknownFlag word => "unknown replace flag `" ++ String.ofList word ++ "`"
  | .badName quoted fault => "invalid escape sequence in template name: " ++ fault.message quoted

/-- The words for a structural fault. Those for a bad pattern end with the pattern. The account of the
fault inside it, which a full diagnostic adds behind a colon, is left out. -/
def StructureFault.message : StructureFault → String
  | .strayEnd => "region end without a matching region start"
  | .neverClosed => "region is never closed"
  | .expectedDefine found => "expected define directive, found " ++ String.ofList found.word
  | .misplacedDefine =>
      "can't define sub template here; DEFINE is only allowed at the top level of a multi template file"
  | .emptyName => "template name must not be empty"
  | .duplicateName name => "duplicate template name `" ++ String.ofList name ++ "`"
  | .insideInsert => "can't have any regions inside an insert region"
  | .badPattern pattern => "invalid replace pattern `" ++ String.ofList pattern ++ "`"
  | .underIndented indentation base =>
      "indentation " ++ toString indentation ++ " is smaller than template region indentation " ++
        toString base

/-- The key of a marker word in a configuration. -/
def MarkerField.key : MarkerField → Text
  | .regionStart => "region_start".toList
  | .regionEnd => "region_end".toList
  | .template => "template".toList

/-- The words for a configuration fault. A text that is no document has none. The account of the place
and the cause, which a full diagnostic adds, is left out. -/
def ConfigFault.message : ConfigFault → String
  | .malformed => ""
  | .notWord field value =>
      " `markers." ++ String.ofList field.key ++
        "` must be a non-empty word without whitespace, got `" ++ String.ofList value ++ "`"
  | .sameWords => " `markers.region_start` and `markers.region_end` must differ"

/-- The words for a place. -/
def Place.message (place : Place) : String := toString place.line ++ ":" ++ toString place.column

namespace Error

/-- The words for an error. -/
def message : Error → String
  | .lexical place fault => "lex error at " ++ place.message ++ ": " ++ fault.message
  | .grammar place fault => "parse error at " ++ place.message ++ ": " ++ fault.message
  | .structural place fault => "validation error at " ++ place.message ++ ": " ++ fault.message
  | .range start stop size =>
      "invalid source range " ++ toString start ++ ".." ++ toString stop ++ " for text of length " ++
        toString size
  | .config fault => "failed to parse config file:" ++ fault.message
  | .notUtf8 => "stream did not contain valid UTF-8"

/-- The place of an error, where it has one. -/
def place? : Error → Option Place
  | .lexical place _ | .grammar place _ | .structural place _ => some place
  | .range .. | .config _ | .notUtf8 => none

/-- A stable code for each class of error. -/
def code : Error → String
  | .lexical .. => "regtpl::lex"
  | .grammar .. => "regtpl::parse"
  | .structural .. => "regtpl::validation"
  | .range .. => "regtpl::invalid_range"
  | .config _ => "regtpl::config_parse"
  | .notUtf8 => "regtpl::io_error"

/-- Advice for the classes of error that have a common cure. -/
def help? : Error → Option String
  | .lexical .. => some "template bodies are indented with spaces; tabs are not allowed"
  | .grammar .. =>
      some ("supported directives: DEFINE(\"name\"), REPLACE(`pattern`, $field, FLAG...), " ++
        "FOREACH($item : $collection), INSERT($field)")
  | .range .. =>
      some "the range must lie within the text and start and end on character boundaries"
  | .config _ => some "check that regtpl.toml is valid TOML with a [markers] section"
  | .structural .. | .notUtf8 => none

end Error

/-- A breach is a state that the invariants of the loader exclude. -/
inductive Breach where
  | unterminatedTokens
  | keywordBeforeLine
  | noBody
  | notReplaceMarker
  | noRange
  | noActivePattern
  | patternLeftActive
  | depthBelowZero
  | lineFeedInRange
  deriving Repr, DecidableEq

/-- A run stops on a refused input. That it never stops on a breach is a theorem about it. -/
inductive Stop where
  | refused (error : Error)
  | broken (breach : Breach)
  deriving Repr, DecidableEq

/-- A sequence of two steps succeeds when both do. -/
theorem bind_ok {Fault First Second : Type} {step : Except Fault First}
    {next : First → Except Fault Second} {result : Second} (success : step >>= next = .ok result) :
    ∃ value, step = .ok value ∧ next value = .ok result := by
  cases step with
  | error fault => cases success
  | ok value => exact ⟨value, rfl, success⟩

/-- A mapped step succeeds when the step does. -/
theorem map_ok {Fault First Second : Type} {step : Except Fault First} {change : First → Second}
    {result : Second} (success : step.map change = .ok result) :
    ∃ value, step = .ok value ∧ change value = result := by
  cases step with
  | error fault => cases success
  | ok value => exact ⟨value, rfl, Except.ok.inj success⟩

end Stencil
