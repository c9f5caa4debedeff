import Hypertext.Document.Rules.Body

/-!
# Rules for tables and options

A table consists of parts that imply one another: a cell is in a row, a row in a group of rows.
What does not belong in a table goes before it. A set of options holds nothing but options and
their groups.
-/

namespace Hypertext.Document.Builder

/-- Applies the rules of the body, with a place before the table for what is added. -/
def fosterRules (b : Builder) (token : Token) : Effect :=
  let (b, next) := { b with fostering := true }.bodyRules token
  ({ b with fostering := false }, next)

/-- Text in a table is put aside until all of it is known. -/
def deferText (b : Builder) (token : Token) : Effect :=
  if b.currentIn Name.isTablePart then
    { b with returnMode := b.mode }.again .inTableText token
  else b.fosterRules token

/-- The rules in a table. -/
def tableRules (b : Builder) (token : Token) : Effect :=
  let cleared := b.popTo Name.boundsTableScope
  match token with
  | .text .. | .null => b.deferText token
  | .comment data => (b.addComment data).done
  | .startTag tag =>
    match tag.name with
    | "caption" => ((cleared.mark.startTag tag).enter .inCaption).done
    | "colgroup" => ((cleared.startTag tag).enter .inColumnGroup).done
    | "col" => (cleared.startImplied "colgroup").again .inColumnGroup token
    | "tbody" | "tfoot" | "thead" => ((cleared.startTag tag).enter .inTableBody).done
    | "td" | "th" | "tr" => (cleared.startImplied "tbody").again .inTableBody token
    | "table" =>
      if b.inScope Name.boundsTableScope "table" then
        let b := (b.popThrough "table").resetMode
        b.again b.mode token
      else b.done
    | "style" | "script" | "template" => b.headRules token
    | "input" => if isHidden tag then (b.addVoid tag).done else b.fosterRules token
    | "form" =>
      if b.hasOpen "template" || b.form.isSome then b.done
      else
        let (b, id) := b.insert (Name.html "form") tag.attributes
        { b with form := some id }.done
    | _ => b.fosterRules token
  | .endTag name =>
    match name with
    | "table" =>
      (if b.inScope Name.boundsTableScope "table" then (b.popThrough "table").resetMode else b).done
    | "body" | "caption" | "col" | "colgroup" | "html" | "tbody" | "td" | "tfoot" | "th"
    | "thead" | "tr" => b.done
    | "template" => b.headRules token
    | _ => b.fosterRules token
  | .endOfFile => b.bodyRules token
  | _ => b.done

/-- Gives the text that was put aside its place: in the table if it is blank, and else before
it. -/
def placeText (b : Builder) : Builder :=
  let pieces := b.tableText.reverse
  let b := { b with tableText := [] }
  if pieces.all fun (_, data) => data.all isBlank then
    pieces.foldl (fun b (_, data) => b.addText data) b
  else pieces.foldl (fun b (kind, data) => (b.fosterRules (.text kind data)).1) b

/-- The rules while text in a table is put aside. -/
def tableTextRules (b : Builder) (token : Token) : Effect :=
  match token with
  | .null => b.done
  | .text kind data => { b with tableText := (kind, data) :: b.tableText }.done
  | token => b.placeText.again b.returnMode token

/-- The rules in the caption of a table. -/
def captionRules (b : Builder) (token : Token) : Effect :=
  let inCaption := b.inScope Name.boundsTableScope "caption"
  let closed := (b.endImplied.popThrough "caption").forgetToMark
  match token with
  | .startTag tag =>
    if ["caption", "col", "colgroup", "tbody", "td", "tfoot", "th", "thead", "tr"].contains
        tag.name then
      if inCaption then closed.again .inTable token else b.done
    else b.bodyRules token
  | .endTag name =>
    match name with
    | "caption" => if inCaption then (closed.enter .inTable).done else b.done
    | "table" => if inCaption then closed.again .inTable token else b.done
    | "body" | "col" | "colgroup" | "html" | "tbody" | "td" | "tfoot" | "th" | "thead"
    | "tr" => b.done
    | _ => b.bodyRules token
  | _ => b.bodyRules token

/-- The rules in a group of columns. -/
def columnGroupRules (b : Builder) (token : Token) : Effect :=
  let otherwise :=
    if b.currentIs "colgroup" then b.pop.again .inTable token else b.done
  match token with
  | .text .mixed data => b.split data
  | .text .blank data => (b.addText data).done
  | .comment data => (b.addComment data).done
  | .startTag tag =>
    match tag.name with
    | "html" => b.mergeHtml tag
    | "col" => (b.addVoid tag).done
    | "template" => b.headRules token
    | _ => otherwise
  | .endTag name =>
    match name with
    | "colgroup" => (if b.currentIs "colgroup" then b.pop.enter .inTable else b).done
    | "col" => b.done
    | "template" => b.headRules token
    | _ => otherwise
  | .endOfFile => b.bodyRules token
  | _ => otherwise

/-- The rules in a group of rows. -/
def tableBodyRules (b : Builder) (token : Token) : Effect :=
  let cleared := b.popTo Name.holdsRows
  let leave :=
    let inTable := b.findsOpen Name.boundsTableScope
      (fun id => (b.name id).isHtml ["table", "tbody", "tfoot"]) b.stack
    if inTable then cleared.pop.again .inTable token else b.done
  match token with
  | .startTag tag =>
    match tag.name with
    | "tr" => ((cleared.startTag tag).enter .inRow).done
    | "th" | "td" => (cleared.startImplied "tr").again .inRow token
    | "caption" | "col" | "colgroup" | "tbody" | "tfoot" | "thead" => leave
    | _ => b.tableRules token
  | .endTag name =>
    match name with
    | "tbody" | "tfoot" | "thead" =>
      (if b.inScope Name.boundsTableScope name then cleared.pop.enter .inTable else b).done
    | "table" => leave
    | "body" | "caption" | "col" | "colgroup" | "html" | "td" | "th" | "tr" => b.done
    | _ => b.tableRules token
  | _ => b.tableRules token

/-- The rules in a row. -/
def rowRules (b : Builder) (token : Token) : Effect :=
  let cleared := b.popTo Name.holdsCells
  let inRow := b.inScope Name.boundsTableScope "tr"
  let leave := if inRow then cleared.pop.again .inTableBody token else b.done
  match token with
  | .startTag tag =>
    match tag.name with
    | "th" | "td" => ((cleared.startTag tag).enter .inCell).mark.done
    | "caption" | "col" | "colgroup" | "tbody" | "tfoot" | "thead" | "tr" => leave
    | _ => b.tableRules token
  | .endTag name =>
    match name with
    | "tr" => (if inRow then cleared.pop.enter .inTableBody else b).done
    | "table" => leave
    | "tbody" | "tfoot" | "thead" =>
      if b.inScope Name.boundsTableScope name then leave else b.done
    | "body" | "caption" | "col" | "colgroup" | "html" | "td" | "th" => b.done
    | _ => b.tableRules token
  | _ => b.tableRules token

/-- Ends the open cell. -/
def endCell (b : Builder) : Builder :=
  (b.endImplied.popThroughAny (·.isHtml ["td", "th"])).forgetToMark

/-- The rules in a cell. -/
def cellRules (b : Builder) (token : Token) : Effect :=
  match token with
  | .startTag tag =>
    if ["caption", "col", "colgroup", "tbody", "td", "tfoot", "th", "thead", "tr"].contains
        tag.name then
      let inCell := b.findsOpen Name.boundsTableScope
        (fun id => (b.name id).isHtml ["td", "th"]) b.stack
      if inCell then b.endCell.again .inRow token else b.done
    else b.bodyRules token
  | .endTag name =>
    match name with
    | "td" | "th" =>
      (if b.inScope Name.boundsTableScope name then
        (b.endImplied.popThrough name).forgetToMark.enter .inRow
      else b).done
    | "body" | "caption" | "col" | "colgroup" | "html" => b.done
    | "table" | "tbody" | "tfoot" | "thead" | "tr" =>
      if b.inScope Name.boundsTableScope name then b.endCell.again .inRow token else b.done
    | _ => b.bodyRules token
  | _ => b.bodyRules token

/-- Ends the set of options. -/
def endSelect (b : Builder) : Builder :=
  (b.popThrough "select").resetMode

/-- The rules in a set of options. -/
def selectRules (b : Builder) (token : Token) : Effect :=
  let inSelect := b.inScope Name.boundsSelectScope "select"
  let noOption := if b.currentIs "option" then b.pop else b
  let noGroup := if noOption.currentIs "optgroup" then noOption.pop else noOption
  match token with
  | .text _ data => (b.addText data).done
  | .comment data => (b.addComment data).done
  | .startTag tag =>
    match tag.name with
    | "html" => b.mergeHtml tag
    | "option" => (noOption.startTag tag).done
    | "optgroup" => (noGroup.startTag tag).done
    | "hr" => (noGroup.addVoid tag).done
    | "select" => (if inSelect then b.endSelect else b).done
    | "input" | "keygen" | "textarea" =>
      if inSelect then
        let b := b.endSelect
        b.again b.mode token
      else b.done
    | "script" | "template" => b.headRules token
    | _ => b.done
  | .endTag name =>
    match name with
    | "optgroup" =>
      let inGroup := (b.stack[1]?).any (b.isNamed "optgroup")
      let b := if b.currentIs "option" && inGroup then b.pop else b
      (if b.currentIs "optgroup" then b.pop else b).done
    | "option" => noOption.done
    | "select" => (if inSelect then b.endSelect else b).done
    | "template" => b.headRules token
    | _ => b.done
  | .endOfFile => b.bodyRules token
  | _ => b.done

/-- The rules in a set of options in a table. -/
def selectInTableRules (b : Builder) (token : Token) : Effect :=
  let parts := ["caption", "table", "tbody", "tfoot", "thead", "tr", "td", "th"]
  let leave :=
    let b := b.endSelect
    b.again b.mode token
  match token with
  | .startTag tag => if parts.contains tag.name then leave else b.selectRules token
  | .endTag name =>
    if parts.contains name then
      if b.inScope Name.boundsTableScope name then leave else b.done
    else b.selectRules token
  | _ => b.selectRules token

end Hypertext.Document.Builder
