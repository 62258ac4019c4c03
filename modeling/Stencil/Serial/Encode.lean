/-
This file gives each result its data tree.
-/
import Stencil.Config
import Stencil.Line.Basic
import Stencil.Serial.Basic
import Stencil.Template.Regions
import Stencil.Template.Set

namespace Stencil

open Serial

/-- A span has its two ends. -/
def Span.serial (span : Span) : Serial :=
  fields [("start", .number span.start), ("end", .number span.stop)]

/-- The stored name of a class of token. -/
def Token.Kind.serialName : Token.Kind → String
  | .identifier => "Identifier"
  | .accessor => "FieldAccessor"
  | .openParen => "OpenParen"
  | .closeParen => "CloseParen"
  | .quoted => "QuotedString"
  | .backticked => "BacktickString"
  | .comma => "Comma"
  | .colon => "Colon"
  | .endOfLine => "EndOfLine"

/-- A token has its class, its place and no text. -/
def Token.serial (token : Token) : Serial :=
  fields [("kind", bareCase token.kind.serialName), ("begin", .number token.start),
    ("end", .number token.stop), ("line", .number token.line), ("column", .number token.column)]

/-- The flags are switches. -/
def Flags.serial (flags : Flags) : Serial :=
  fields [("remove_if_null", .boolean (flags.contains .removeIfNull))]

/-- An instruction is the case of its keyword. -/
def Instruction.serial : Instruction → Serial
  | .define name => caseOf "Define" (fields [("name", .text name)])
  | .replace pattern field flags =>
      caseOf "Replace" (fields [("pattern", .text pattern), ("variable", .text field),
        ("flags", flags.serial)])
  | .foreach item collection =>
      caseOf "Foreach" (fields [("variable", .text item), ("collection", .text collection)])
  | .insert field => caseOf "Insert" (fields [("variable", .text field)])

/-- A directive has its instruction and its place. -/
def Directive.serial (directive : Directive) : Serial :=
  fields [("kind", directive.instruction.serial), ("line", .number directive.line),
    ("column", .number directive.column)]

/-- Only the kind of a directive line has data. -/
def Line.Kind.serial : Line.Kind → Serial
  | .empty => bareCase "Empty"
  | .opening => bareCase "RegionStart"
  | .directives start tokens =>
      caseOf "RegionStartWithDirectives"
        (fields [("directives_begin", .number start), ("tokens", ofList Token.serial tokens)])
  | .closing => bareCase "RegionEnd"
  | .regular => bareCase "Regular"

/-- A line has its number, its span, its indentation and its kind. -/
def Line.serial (line : Line) : Serial :=
  fields [("number", .number line.number), ("begin", .number line.start),
    ("end", .number line.stop), ("indentation", ofOption .number line.indentation?),
    ("kind", line.kind.serial)]

/-- A piece that is a site has its groups as its pattern. -/
def Piece.serial (piece : Piece) : Serial :=
  fields [("begin", .number piece.start), ("end", .number piece.stop),
    ("indentation", ofOption .number piece.indentation?),
    ("starts_new_line", .boolean piece.startsNewLine),
    ("pattern",
      ofOption (fun groups => fields [("groups", ofList (ofOption Span.serial) groups)])
        piece.groups?)]

/-- A site has the index of its piece and its number. -/
def Site.serial (site : Site) : Serial :=
  fields [("range_index", .number site.piece), ("replace_index", .number site.number)]

/-- A region is the case of its keyword. -/
def Region.serial : Region → Serial
  | .foreach item collection =>
      caseOf "Foreach" (fields [("variable", .text item), ("collection", .text collection)])
  | .replace field flags sites =>
      caseOf "Replace" (fields [("variable", .text field), ("flags", flags.serial),
        ("replace_ranges", ofList Site.serial sites.toList)])
  | .insert indentation field =>
      caseOf "Insert" (fields [("indentation", .number indentation), ("variable", .text field)])

/-- A boundary has its position, and its region where it opens one. -/
def Boundary.serial : Boundary → Serial
  | .opening piece site region =>
      caseOf "Begin" (fields [("range_index", .number piece),
        ("replace_range_index", .number site), ("region", region.serial)])
  | .closing piece site =>
      caseOf "End" (fields [("range_index", .number piece), ("replace_range_index", .number site)])

/-- A template has its whole source. -/
def Template.serial (template : Template) : Serial :=
  fields [("source", .text template.source),
    ("markers", ofList Boundary.serial template.boundaries.toList),
    ("ranges", ofList Piece.serial template.pieces.toList),
    ("replace_range_count", .number template.siteCount)]

/-- A region span has the indices of its boundaries and its depth. -/
def RegionSpan.serial (region : RegionSpan) : Serial :=
  fields [("begin_marker", .number region.opening), ("end_marker", .number region.closing),
    ("depth", .number region.depth)]

/-- A set has a field for each template. -/
def TemplateSet.serial (set : TemplateSet) : Serial :=
  .record (set.entries.map fun entry => (entry.1, entry.2.serial))

/-- Markers have their three words. -/
def Markers.serial (markers : Markers) : Serial :=
  fields [("region_start", .text markers.regionStart), ("region_end", .text markers.regionEnd),
    ("template", .text markers.template)]

/-- A configuration has its markers. -/
def Config.serial (config : Config) : Serial := fields [("markers", config.markers.serial)]

end Stencil
