import Stencil.Proofs.Text.Plain
import Stencil.Transform

/-!
# Transforms applied again

Joined words are joined again to the same. Capitalised words need not be capitalised to the same:
words that are too short, and letters outside ASCII, make capitals that begin no word.
-/

namespace Stencil.Transform

variable {name outer inner : Text} {t : Transform} {s : Text}

theorem applyNamed_str (h : ofName? name = some t) (s : Text) :
    applyNamed name (some (.str s)) = t.applyTo (.str s) := by
  unfold applyNamed
  rw [h]
  rfl

/-! ## Joined words -/

/-- The name is one of the transforms that join words by hyphens or by underscores. -/
def JoinsWords (name : Text) : Prop := ofName? name = some kebab ∨ ofName? name = some snake

theorem JoinsWords.exists_separator (h : JoinsWords name) :
    ∃ sep, Text.isWordSeparator sep = true ∧
      ∀ s, applyNamed name (some (.str s)) = Text.joinWords sep s := by
  rcases h with hkebab | hsnake
  · exact ⟨'-', by decide, applyNamed_str hkebab⟩
  · exact ⟨'_', by decide, applyNamed_str hsnake⟩

/-- Of several joinings of one text only the last one shows. -/
theorem applyNamed_joined (houter : JoinsWords outer) (hinner : JoinsWords inner) (s : Text) :
    applyNamed outer (some (.str (applyNamed inner (some (.str s))))) =
      applyNamed outer (some (.str s)) := by
  obtain ⟨other, -, hother⟩ := houter.exists_separator
  obtain ⟨sep, hsep, hinner⟩ := hinner.exists_separator
  rw [hinner, hother, hother, Text.joinWords_joinWords hsep]

theorem applyNamed_joined_acronym :
    JoinsWords (text "kebab") ∧ JoinsWords (text " SnakeCase ") ∧
      applyNamed (text " SnakeCase ") (some (.str (text "HTTPServer2Go ΟΔΟΣ"))) =
        text "http_server2_go_οδος" ∧
      applyNamed (text "kebab") (some (.str (text "http_server2_go_οδος"))) =
        applyNamed (text "kebab") (some (.str (text "HTTPServer2Go ΟΔΟΣ"))) := by
  have houter : JoinsWords (text "kebab") := .inl (by decide +kernel)
  have hinner : JoinsWords (text " SnakeCase ") := .inr (by decide +kernel)
  have honce : applyNamed (text " SnakeCase ") (some (.str (text "HTTPServer2Go ΟΔΟΣ"))) =
      text "http_server2_go_οδος" := by decide +kernel
  have hagain := applyNamed_joined houter hinner (text "HTTPServer2Go ΟΔΟΣ")
  rw [honce] at hagain
  exact ⟨houter, hinner, honce, hagain⟩

/-! ## Capitalised words -/

/-- The transform is one of those that capitalise words. -/
def Capitalizes (t : Transform) : Prop := t = camel ∨ t = pascal ∨ t = capitalize

/-- Whether a capital `d` behind `c` begins a word for a transform that capitalises words: behind a
space, or at a hump. -/
def opensWord : Transform → CodePoint → CodePoint → Text → Bool
  | capitalize, c, _, _ => c == ' '
  | _, c, d, back => Text.isHump c d back

theorem applyTo_eq_self_iff (ht : t.Capitalizes) (s : Text) :
    t.applyTo (.str (t.applyTo (.str s))) = t.applyTo (.str s) ↔
      Text.CapitalsOpen t.opensWord (t.applyTo (.str s)) := by
  rcases ht with rfl | rfl | rfl
  · show Text.camel (Text.camel s) = Text.camel s ↔ Text.CapitalsOpen Text.isHump (Text.camel s)
    simp only [Text.camel_eq]
    exact Text.fuse_eq_self_iff Text.leads_lower s
  · show Text.pascal (Text.pascal s) = Text.pascal s ↔
      Text.CapitalsOpen Text.isHump (Text.pascal s)
    simp only [Text.pascal_eq]
    exact Text.fuse_eq_self_iff Text.leads_capitalize s
  · exact Text.title_eq_self_iff s

theorem capitalsOpen_of_isPlain (ht : t.Capitalizes) (hs : Text.IsPlain s) :
    Text.CapitalsOpen t.opensWord (t.applyTo (.str s)) := by
  rcases ht with rfl | rfl | rfl
  · exact hs.capitalsOpen_camel
  · exact hs.capitalsOpen_pascal
  · exact hs.capitalsOpen_title

/-- Capitalising again changes nothing exactly if every capital begins a word, and so it is with
plain words. -/
theorem applyNamed_capitalized (hname : ofName? name = some t) (ht : t.Capitalizes) (s : Text) :
    (applyNamed name (some (.str (applyNamed name (some (.str s))))) =
        applyNamed name (some (.str s)) ↔
      Text.CapitalsOpen t.opensWord (applyNamed name (some (.str s)))) ∧
    (Text.IsPlain s → applyNamed name (some (.str (applyNamed name (some (.str s))))) =
      applyNamed name (some (.str s))) := by
  simp only [applyNamed_str hname]
  refine ⟨applyTo_eq_self_iff ht s, ?_⟩
  intro hs
  exact (applyTo_eq_self_iff ht s).2 (capitalsOpen_of_isPlain ht hs)

theorem applyNamed_capitalized_phrase :
    ofName? (text "PascalCase") = some pascal ∧ pascal.Capitalizes ∧
      Text.IsPlain (text "some-value HERE2") ∧
      applyNamed (text "PascalCase") (some (.str (text "some-value HERE2"))) =
        text "SomeValueHere2" ∧
      applyNamed (text "PascalCase") (some (.str (text "SomeValueHere2"))) =
        text "SomeValueHere2" := by
  have hname : ofName? (text "PascalCase") = some pascal := by decide +kernel
  have ht : pascal.Capitalizes := .inr (.inl rfl)
  have hascii : (text "some-value HERE2").all (·.toNat < 0x80) = true := by decide
  have hwords : (Text.splitWords (text "some-value HERE2")).all
      (fun w => 2 ≤ w.length && w.all CodePoint.isAlphanum) = true := by decide +kernel
  have hs : Text.IsPlain (text "some-value HERE2") := by
    simp only [List.all_eq_true, Bool.and_eq_true, decide_eq_true_eq] at hascii hwords
    exact ⟨hascii, fun w hw => ⟨(hwords w hw).1, (hwords w hw).2⟩⟩
  have honce : applyNamed (text "PascalCase") (some (.str (text "some-value HERE2"))) =
      text "SomeValueHere2" := by decide +kernel
  have hagain := (applyNamed_capitalized hname ht (text "some-value HERE2")).2 hs
  rw [honce] at hagain
  exact ⟨hname, ht, hs, honce, hagain⟩

/-- Words of one letter run into an acronym, and upper case can make two letters of one. -/
theorem applyNamed_capitalized_letters :
    applyNamed (text "pascal") (some (.str (text "a b"))) = text "AB" ∧
    applyNamed (text "pascal") (some (.str (text "AB"))) = text "Ab" ∧
    applyNamed (text "camel") (some (.str (text "a b c"))) = text "aBC" ∧
    applyNamed (text "camel") (some (.str (text "aBC"))) = text "aBc" ∧
    applyNamed (text "capitalize") (some (.str (text "ß"))) = text "SS" ∧
    applyNamed (text "capitalize") (some (.str (text "SS"))) = text "Ss" := by
  decide +kernel

end Stencil.Transform
