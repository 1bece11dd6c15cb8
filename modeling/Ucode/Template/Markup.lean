import Ucode.Template.Context

/-!
# Text and comments

Text runs up to the first mark that opens a tag, and a comment up to the first mark that closes it. Both
stop at NUL as they do at the end of the text.
-/
namespace Ucode.Template.Markup

/-- The kind of tag that opens here. -/
def opener? : List CodePoint → Option Mode
  | brace :: kind :: _ =>
    if brace = '{' then
      if kind = '#' then some .comment
      else if kind = '{' then some .expressionTag
      else if kind = '%' then some .statementTag
      else none
    else none
  | _ => none

/-- The length of the text before the first tag, and the kind of that tag if there is one. -/
def rawText : List CodePoint → Nat × Option Mode
  | [] => (0, none)
  | c :: rest =>
    if c = CodePoint.nul then (0, none)
    else
      match opener? (c :: rest) with
      | some mode => (0, some mode)
      | none =>
        let (n, mode) := rawText rest
        (n + 1, mode)

/-- How far a comment is read, and whether it is closed. A comment is not taken for closed when nothing follows
its closing mark. -/
def rawComment : List CodePoint → Nat × Bool
  | [] => (0, false)
  | c :: rest =>
    if c = CodePoint.nul then (0, false)
    else if c = '#' ∧ rest.head? = some (Char.toNat '}') then
      (2, rest.tail.headD CodePoint.nul != CodePoint.nul)
    else
      let (n, closed) := rawComment rest
      (n + 1, closed)

end Ucode.Template.Markup
