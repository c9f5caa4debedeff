/-!
# Tags

The closed vocabulary of element names that get special treatment, and three catalogs over it:
tags laid out on lines of their own, tags without content, and tags whose content is written
as it stands. An element whose name is outside the vocabulary has no tag and belongs to none
of the catalogs.

* `Tag.ofName?_name`: a tag is found again by its name.
* `Tag.ofName?_eq_some`: only by its name.
-/

namespace Hypertext

/-- A known element name, in alphabetical order, which is also the order of tags. -/
inductive Tag where
  | a | abbr | address | area | article | aside | audio | b | base | bdi | bdo | blockquote
  | body | br | button | canvas | caption | center | cite | code | col | colgroup | data
  | datalist | dd | del | details | dfn | dialog | div | dl | dt | em | embed | fieldset
  | figcaption | figure | font | footer | form | frame | frameset | h1 | h2 | h3 | h4 | h5 | h6
  | head | header | hgroup | hr | html | i | iframe | img | input | ins | kbd | keygen | label
  | legend | li | link | listing | main | map | mark | math | menu | «meta» | meter | nav | nobr
  | noembed | noframes | noscript | object | ol | optgroup | option | output | p | param
  | picture | plaintext | pre | progress | q | rp | rt | ruby | s | samp | script | «section»
  | select | slot | small | source | span | strike | strong | style | sub | summary | sup | svg
  | table | tbody | td | template | textarea | tfoot | th | thead | time | title | tr | track
  | tt | u | ul | «var» | video | wbr | xmp
  deriving DecidableEq, Repr

namespace Tag

/-- The spelling of a tag in markup. -/
def name : Tag → String
  | .a => "a"
  | .abbr => "abbr"
  | .address => "address"
  | .area => "area"
  | .article => "article"
  | .aside => "aside"
  | .audio => "audio"
  | .b => "b"
  | .base => "base"
  | .bdi => "bdi"
  | .bdo => "bdo"
  | .blockquote => "blockquote"
  | .body => "body"
  | .br => "br"
  | .button => "button"
  | .canvas => "canvas"
  | .caption => "caption"
  | .center => "center"
  | .cite => "cite"
  | .code => "code"
  | .col => "col"
  | .colgroup => "colgroup"
  | .data => "data"
  | .datalist => "datalist"
  | .dd => "dd"
  | .del => "del"
  | .details => "details"
  | .dfn => "dfn"
  | .dialog => "dialog"
  | .div => "div"
  | .dl => "dl"
  | .dt => "dt"
  | .em => "em"
  | .embed => "embed"
  | .fieldset => "fieldset"
  | .figcaption => "figcaption"
  | .figure => "figure"
  | .font => "font"
  | .footer => "footer"
  | .form => "form"
  | .frame => "frame"
  | .frameset => "frameset"
  | .h1 => "h1"
  | .h2 => "h2"
  | .h3 => "h3"
  | .h4 => "h4"
  | .h5 => "h5"
  | .h6 => "h6"
  | .head => "head"
  | .header => "header"
  | .hgroup => "hgroup"
  | .hr => "hr"
  | .html => "html"
  | .i => "i"
  | .iframe => "iframe"
  | .img => "img"
  | .input => "input"
  | .ins => "ins"
  | .kbd => "kbd"
  | .keygen => "keygen"
  | .label => "label"
  | .legend => "legend"
  | .li => "li"
  | .link => "link"
  | .listing => "listing"
  | .main => "main"
  | .map => "map"
  | .mark => "mark"
  | .math => "math"
  | .menu => "menu"
  | .«meta» => "meta"
  | .meter => "meter"
  | .nav => "nav"
  | .nobr => "nobr"
  | .noembed => "noembed"
  | .noframes => "noframes"
  | .noscript => "noscript"
  | .object => "object"
  | .ol => "ol"
  | .optgroup => "optgroup"
  | .option => "option"
  | .output => "output"
  | .p => "p"
  | .param => "param"
  | .picture => "picture"
  | .plaintext => "plaintext"
  | .pre => "pre"
  | .progress => "progress"
  | .q => "q"
  | .rp => "rp"
  | .rt => "rt"
  | .ruby => "ruby"
  | .s => "s"
  | .samp => "samp"
  | .script => "script"
  | .«section» => "section"
  | .select => "select"
  | .slot => "slot"
  | .small => "small"
  | .source => "source"
  | .span => "span"
  | .strike => "strike"
  | .strong => "strong"
  | .style => "style"
  | .sub => "sub"
  | .summary => "summary"
  | .sup => "sup"
  | .svg => "svg"
  | .table => "table"
  | .tbody => "tbody"
  | .td => "td"
  | .template => "template"
  | .textarea => "textarea"
  | .tfoot => "tfoot"
  | .th => "th"
  | .thead => "thead"
  | .time => "time"
  | .title => "title"
  | .tr => "tr"
  | .track => "track"
  | .tt => "tt"
  | .u => "u"
  | .ul => "ul"
  | .«var» => "var"
  | .video => "video"
  | .wbr => "wbr"
  | .xmp => "xmp"

/-- Every tag, in order. -/
def all : List Tag :=
  [.a, .abbr, .address, .area, .article, .aside, .audio, .b, .base, .bdi, .bdo, .blockquote,
   .body, .br, .button, .canvas, .caption, .center, .cite, .code, .col, .colgroup, .data,
   .datalist, .dd, .del, .details, .dfn, .dialog, .div, .dl, .dt, .em, .embed, .fieldset,
   .figcaption, .figure, .font, .footer, .form, .frame, .frameset, .h1, .h2, .h3, .h4, .h5, .h6,
   .head, .header, .hgroup, .hr, .html, .i, .iframe, .img, .input, .ins, .kbd, .keygen, .label,
   .legend, .li, .link, .listing, .main, .map, .mark, .math, .menu, .«meta», .meter, .nav, .nobr,
   .noembed, .noframes, .noscript, .object, .ol, .optgroup, .option, .output, .p, .param,
   .picture, .plaintext, .pre, .progress, .q, .rp, .rt, .ruby, .s, .samp, .script, .«section»,
   .select, .slot, .small, .source, .span, .strike, .strong, .style, .sub, .summary, .sup, .svg,
   .table, .tbody, .td, .template, .textarea, .tfoot, .th, .thead, .time, .title, .tr, .track,
   .tt, .u, .ul, .«var», .video, .wbr, .xmp]

/-- The tag spelled `s`; capital letters are not folded. -/
def ofName? (s : String) : Option Tag :=
  all.find? (·.name == s)

/-- The place of a tag in the vocabulary, counted from zero. -/
def rank (t : Tag) : Nat :=
  t.ctorIdx

instance : Ord Tag := ⟨fun left right => compare left.rank right.rank⟩

/-- The order on optional tags: a missing tag comes before all others. -/
def compare? : Option Tag → Option Tag → Ordering
  | none, none => .eq
  | none, some _ => .lt
  | some _, none => .gt
  | some left, some right => compare left right

/-- The name of a tag with a capital letter, as shown in diagnostics. -/
def capitalName (t : Tag) : String :=
  t.name.capitalize

/-- Tags that stand on lines of their own when a tree is laid out; `hr` and `meta` are also
void. -/
def blocks : List Tag :=
  [.address, .article, .aside, .blockquote, .body, .details, .dialog, .dd, .div, .dl, .dt,
   .fieldset, .figcaption, .figure, .footer, .form, .h1, .h2, .h3, .h4, .h5, .h6, .head, .header,
   .hr, .html, .li, .main, .«meta», .nav, .ol, .p, .pre, .«section», .summary, .table, .ul]

/-- Tags that have neither content nor an end tag. -/
def voids : List Tag :=
  [.area, .base, .br, .col, .embed, .hr, .img, .input, .keygen, .link, .«meta», .param, .source,
   .track, .wbr]

/-- Tags whose text is written without escaping and without indentation. -/
def literals : List Tag :=
  [.iframe, .noembed, .noframes, .noscript, .plaintext, .script, .style, .xmp]

/-- Whether an element with this tag is laid out on lines of its own. -/
def isBlock (t : Option Tag) : Bool :=
  t.any blocks.contains

/-- Whether an element with this tag can have no content. -/
def isVoid (t : Option Tag) : Bool :=
  t.any voids.contains

/-- Whether the text directly in an element with this tag is written as it stands. -/
def isLiteral (t : Option Tag) : Bool :=
  t.any literals.contains

theorem ofName?_name (t : Tag) : ofName? t.name = some t := by
  cases t <;> decide

theorem ofName?_eq_some {s : String} {t : Tag} : ofName? s = some t ↔ s = t.name := by
  refine ⟨fun h => ?_, fun h => h ▸ ofName?_name t⟩
  have := List.find?_some h
  simp only [beq_iff_eq] at this
  exact this.symm

end Tag

end Hypertext
