import Hypertext.Document.Rules.Body

/-!
# Rules for frames and for the end

A set of frames replaces the body. After the body or the set of frames only comments and blank
text are expected; anything else leads back.
-/

namespace Hypertext.Document.Builder

/-- The rules after the body. -/
def afterBodyRules (b : Builder) (token : Token) : Effect :=
  match token with
  | .text .mixed data => b.split data
  | .text .blank _ => b.bodyRules token
  | .comment data => (b.addCommentTo (b.root?.getD Draft.document) data).done
  | .startTag tag => if tag.name = "html" then b.mergeHtml tag else b.again .inBody token
  | .endTag name =>
    if name = "html" then (b.enter .afterAfterBody).done else b.again .inBody token
  | .endOfFile => b.done
  | _ => b.again .inBody token

/-- The rules after the outermost element has ended. -/
def afterAfterBodyRules (b : Builder) (token : Token) : Effect :=
  match token with
  | .text .mixed data => b.split data
  | .text .blank _ => b.bodyRules token
  | .comment data => (b.addCommentTo Draft.document data).done
  | .startTag tag => if tag.name = "html" then b.mergeHtml tag else b.again .inBody token
  | .endOfFile => b.done
  | _ => b.again .inBody token

/-- The rules in a set of frames. -/
def framesetRules (b : Builder) (token : Token) : Effect :=
  match token with
  | .text .mixed data => b.split data
  | .text .blank data => (b.addText data).done
  | .comment data => (b.addComment data).done
  | .startTag tag =>
    match tag.name with
    | "html" => b.mergeHtml tag
    | "frameset" => (b.startTag tag).done
    | "frame" => (b.addVoid tag).done
    | "noframes" => b.headRules token
    | _ => b.done
  | .endTag name =>
    if name = "frameset" ∧ b.stack.length ≠ 1 then
      let b := b.pop
      (if b.currentIs "frameset" then b else b.enter .afterFrameset).done
    else b.done
  | _ => b.done

/-- The rules after the set of frames. -/
def afterFramesetRules (b : Builder) (token : Token) : Effect :=
  match token with
  | .text .mixed data => b.split data
  | .text .blank data => (b.addText data).done
  | .comment data => (b.addComment data).done
  | .startTag tag =>
    match tag.name with
    | "html" => b.mergeHtml tag
    | "noframes" => b.headRules token
    | _ => b.done
  | .endTag name => if name = "html" then (b.enter .afterAfterFrameset).done else b.done
  | _ => b.done

/-- The rules after the set of frames and the outermost element have ended. -/
def afterAfterFramesetRules (b : Builder) (token : Token) : Effect :=
  match token with
  | .text .mixed data => b.split data
  | .text .blank _ => b.bodyRules token
  | .comment data => (b.addCommentTo Draft.document data).done
  | .startTag tag =>
    match tag.name with
    | "html" => b.mergeHtml tag
    | "noframes" => b.headRules token
    | _ => b.done
  | _ => b.done

end Hypertext.Document.Builder
