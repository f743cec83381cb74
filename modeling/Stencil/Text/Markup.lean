import Stencil.Text.Blank

/-!
# Brackets on a screen

A screen takes brackets for markup if what stands in them looks like the name of a style. Such
brackets are protected, so that they are shown as they are; in front of any other opening bracket
one backslash is taken for a protection and lost.
-/

namespace Stencil.Text

/-- Whether what stands behind an opening bracket looks like the name of a style: it starts with a
small Latin letter or one of three signs, and a closing bracket comes before the next opening
one. -/
def isStyleName : Text → Bool
  | [] => false
  | c :: s =>
    (c.isLower || c == '#' || c == '/' || c == '@') &&
      s.find? (fun c => c == chr '[' || c == chr ']') == some (chr ']')

/-- A text as a screen shows it, behind a number of backslashes. -/
def shownBehind (backslashes : Nat) : Text → Text
  | [] => List.replicate backslashes (chr '\\')
  | c :: s =>
    if c == '\\' then shownBehind (backslashes + 1) s
    else
      let lost := if c == '[' && !isStyleName s then 1 else 0
      List.replicate (backslashes - lost) (chr '\\') ++ c :: shownBehind 0 s

/-- A protected text as a screen shows it. -/
def shownOnScreen (s : Text) : Text := shownBehind 0 s

/-! ## Styles that are open -/

/-- The styles that are open behind a tag: it opens one, or it closes the last one of its name, or
the last one of all if it names none. There may be none to close. -/
def tagged? (opened : List Text) (tag : Text) : Option (List Text) :=
  match tag with
  | '/' :: name =>
    let name := trim name
    if name.isEmpty then if opened.isEmpty then none else some opened.tail
    else if opened.contains name then some (opened.erase name) else none
  | name => some (trim (name.takeWhile (· != chr '=')) :: opened)

/-- A text as a screen shows it behind open styles and a number of backslashes, or inside a tag, the
name of which has come so far from its end on. -/
def markupBehind (opened : List Text) (backslashes : Nat) (inTag : Option Text) :
    Text → Except Text Text
  | [] => .ok (List.replicate backslashes (chr '\\'))
  | c :: s =>
    match inTag with
    | some reversed =>
      if c == ']' then
        match tagged? opened reversed.reverse with
        | some opened => markupBehind opened 0 none s
        | none => .error (text "closing tag '[" ++ reversed.reverse ++ text "]' closes nothing")
      else markupBehind opened 0 (some (c :: reversed)) s
    | none =>
      if c == '\\' then markupBehind opened (backslashes + 1) none s
      else if c == '[' && isStyleName s && backslashes % 2 == 0 then
        (markupBehind opened 0 (some []) s).map (List.replicate (backslashes / 2) (chr '\\') ++ ·)
      else
        let left :=
          if c != '[' then backslashes
          else if isStyleName s then backslashes / 2 else backslashes - 1
        (markupBehind opened 0 none s).map (List.replicate left (chr '\\') ++ c :: ·)

/-- A text with markup as a screen shows it. -/
def markup (s : Text) : Except Text Text := markupBehind [] 0 none s

end Stencil.Text
