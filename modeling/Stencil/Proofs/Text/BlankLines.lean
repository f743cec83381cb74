import Stencil.Proofs.Text.Trimming
import Stencil.Text.Lines

/-!
# Runs of blank lines

Of three or more blank lines in a row two line ends are left, and all other lines stay as they are.
This is said of the lines one by one, and also comes out of one scan over the characters that looks
for such a run at the front of the text and behind each newline.
-/

namespace Stencil.Text

variable {s body line rest : Text} {run input out : List Text}

/-! ## Lines -/

/-- Whether a line is ended by its only newline. -/
def IsEnded (line : Text) : Prop := ∃ body, chr '\n' ∉ body ∧ line = body ++ [chr '\n']

/-- Whether these are the lines of a text: only the last one may have no newline. -/
inductive AreLines : List Text → Prop
  | nil : AreLines []
  | last {body : Text} : body ≠ [] → chr '\n' ∉ body → AreLines [body]
  | line {line : Text} {rest : List Text} : IsEnded line → AreLines rest → AreLines (line :: rest)

theorem lines_append (h : chr '\n' ∉ body) (s : Text) :
    lines (body ++ [chr '\n'] ++ s) = (body ++ [chr '\n']) :: lines s := by
  induction body with
  | nil => rfl
  | cons c body ih =>
    obtain ⟨hc, hbody⟩ := not_or.1 (List.mem_cons.not.1 h)
    rw [List.cons_append, List.cons_append, lines, ih hbody, if_neg (by simpa using Ne.symm hc)]

theorem IsEnded.lines_append (h : IsEnded line) (s : Text) :
    lines (line ++ s) = line :: lines s := by
  obtain ⟨body, hbody, rfl⟩ := h
  exact Text.lines_append hbody s

theorem lines_of_not_mem (hne : body ≠ []) (h : chr '\n' ∉ body) : lines body = [body] := by
  induction body with
  | nil => exact absurd rfl hne
  | cons c body ih =>
    obtain ⟨hc, hbody⟩ := not_or.1 (List.mem_cons.not.1 h)
    rw [lines, if_neg (by simpa using Ne.symm hc)]
    cases body with
    | nil => rfl
    | cons d body => rw [ih (List.cons_ne_nil d body) hbody]

theorem flatten_lines (s : Text) : (lines s).flatten = s := by
  induction s with
  | nil => rfl
  | cons c s ih =>
    rw [lines]
    split
    · rw [List.flatten_cons, ih, List.singleton_append]
    · cases h : lines s with
      | nil =>
        rw [h] at ih
        rw [← ih]
        rfl
      | cons line rest =>
        rw [h] at ih
        rw [← ih]
        rfl

theorem areLines_lines (s : Text) : AreLines (lines s) := by
  induction s with
  | nil => exact .nil
  | cons c s ih =>
    rw [lines]
    split
    · next hc =>
      obtain rfl := beq_iff_eq.1 hc
      exact .line ⟨[], List.not_mem_nil, rfl⟩ ih
    · next hc =>
      have hne : '\n' ≠ c := by
        rintro rfl
        exact hc rfl
      cases h : lines s with
      | nil => exact .last (List.cons_ne_nil c []) (by simpa using hne)
      | cons line rest =>
        rw [h] at ih
        cases ih with
        | last _ hbody => exact .last (List.cons_ne_nil c line) (by simp [hne, hbody])
        | line hline hrest =>
          obtain ⟨body, hbody, rfl⟩ := hline
          exact .line ⟨c :: body, by simp [hne, hbody], rfl⟩ hrest

theorem AreLines.lines_flatten (h : AreLines input) : lines input.flatten = input := by
  induction h with
  | nil => rfl
  | last hne hbody => simpa using lines_of_not_mem hne hbody
  | line hline _ ih => rw [List.flatten_cons, hline.lines_append, ih]

/-! ## Blank lines -/

/-- The characters that may stand in a blank line in front of its end. -/
def isPad (c : CodePoint) : Bool := c == ' ' || c == '\t'

theorem not_mem_of_isPad {pad : Text} (h : ∀ c ∈ pad, isPad c = true) : chr '\n' ∉ pad := by
  intro hmem
  cases h _ hmem

theorem isBlankLine_iff :
    isBlankLine line = true ↔ ∃ pad : Text, (∀ c ∈ pad, isPad c = true) ∧
      (line = pad ++ [chr '\n'] ∨ line = pad ++ [chr '\r', chr '\n']) := by
  have hdrop : isBlankLine line = true ↔
      line.dropWhile isPad = [chr '\n'] ∨ line.dropWhile isPad = [chr '\r', chr '\n'] := by
    rw [← beq_iff_eq (a := line.dropWhile isPad), ← beq_iff_eq (a := line.dropWhile isPad),
      ← Bool.or_eq_true]
    rfl
  rw [hdrop]
  constructor
  · intro h
    have hsplit := List.takeWhile_append_dropWhile (p := isPad) (l := line)
    refine ⟨line.takeWhile isPad, List.all_eq_true.1 List.all_takeWhile, ?_⟩
    obtain h | h := h <;> rw [h] at hsplit
    · exact .inl hsplit.symm
    · exact .inr hsplit.symm
  · rintro ⟨pad, hpad, rfl | rfl⟩
    · exact .inl (dropWhile_stop hpad rfl)
    · exact .inr (dropWhile_stop hpad rfl)

theorem isEnded_of_isBlankLine (h : isBlankLine line = true) : IsEnded line := by
  obtain ⟨pad, hpad, rfl | rfl⟩ := isBlankLine_iff.1 h
  · exact ⟨pad, not_mem_of_isPad hpad, rfl⟩
  · exact ⟨pad ++ [chr '\r'], by simpa using not_mem_of_isPad hpad, by simp⟩

/-! ## Line by line -/

def lineEndOf (run : List Text) : Text :=
  if chr '\r' ∈ run.flatten then ['\r', '\n'] else ['\n']

def shortened (run : List Text) : List Text :=
  if 3 ≤ run.length then [lineEndOf run, lineEndOf run] else run

/-- What becomes of lines: each whole run of blank lines is shortened, and the other lines stay. -/
inductive Squeezed : List Text → List Text → Prop
  | nil : Squeezed [] []
  | line {line : Text} {rest out : List Text} : isBlankLine line = false → Squeezed rest out →
      Squeezed (line :: rest) (line :: out)
  | run {run rest out : List Text} : run ≠ [] → (∀ line ∈ run, isBlankLine line = true) →
      rest.head?.all (!isBlankLine ·) → Squeezed rest out →
      Squeezed (run ++ rest) (shortened run ++ out)

theorem flatten_shortened (run : List Text) : (shortened run).flatten = squeezeRun run := by
  unfold shortened squeezeRun lineEndOf
  simp only [List.contains_iff_mem]
  split
  · split <;> rfl
  · rfl

theorem length_shortened_le (run : List Text) : (shortened run).length ≤ 2 := by
  unfold shortened
  split
  · exact Nat.le_refl 2
  · omega

theorem isBlankLine_lineEndOf (run : List Text) : isBlankLine (lineEndOf run) = true := by
  unfold lineEndOf
  split <;> rfl

theorem isBlankLine_of_mem_shortened (h : ∀ line ∈ run, isBlankLine line = true) :
    ∀ line ∈ shortened run, isBlankLine line = true := by
  unfold shortened
  split
  · simpa using isBlankLine_lineEndOf run
  · exact h

theorem Squeezed.of_blank {rest : List Text} (hrun : ∀ line ∈ run, isBlankLine line = true)
    (hrest : rest.head?.all (!isBlankLine ·)) (h : Squeezed rest out) :
    Squeezed (run ++ rest) (shortened run ++ out) := by
  cases run with
  | nil => exact h
  | cons line run => exact .run (List.cons_ne_nil line run) hrun hrest h

theorem exists_squeezed {rest : List Text} (hrun : ∀ line ∈ run, isBlankLine line = true) :
    ∃ out, Squeezed (run ++ rest) out ∧ squeezeLines run rest = out.flatten := by
  induction rest generalizing run with
  | nil =>
    refine ⟨shortened run ++ [], .of_blank hrun rfl .nil, ?_⟩
    rw [List.append_nil, flatten_shortened, squeezeLines]
  | cons line rest ih =>
    rw [squeezeLines]
    cases hline : isBlankLine line with
    | true =>
      have hlonger : ∀ l ∈ run ++ [line], isBlankLine l = true := by
        simpa [hline, or_imp, forall_and] using hrun
      obtain ⟨out, hout, heq⟩ := ih hlonger
      exact ⟨out, by simpa using hout, by simpa using heq⟩
    | false =>
      obtain ⟨out, hout, heq⟩ := @ih [] (List.forall_mem_nil _)
      refine ⟨shortened run ++ line :: out, .of_blank hrun (by simp [hline]) (.line hline hout), ?_⟩
      simp [flatten_shortened, heq]

namespace Squeezed

theorem head_not_blank (h : Squeezed input out) (hhead : input.head?.all (!isBlankLine ·)) :
    out.head?.all (!isBlankLine ·) := by
  cases h with
  | nil => exact hhead
  | line => exact hhead
  | @run run rest out hne hrun =>
    obtain ⟨line, run, rfl⟩ := List.exists_cons_of_ne_nil hne
    simp [hrun line List.mem_cons_self] at hhead

theorem eq_nil (h : Squeezed [] out) : out = [] := by
  generalize hnil : [] = input at h
  cases h with
  | nil => rfl
  | line => cases hnil
  | run hne => exact absurd (List.append_eq_nil_iff.1 hnil.symm).1 hne

end Squeezed

theorem AreLines.of_append {rest : List Text} (hrun : ∀ line ∈ run, isBlankLine line = true)
    (h : AreLines (run ++ rest)) : AreLines rest := by
  induction run with
  | nil => exact h
  | cons line run ih =>
    obtain ⟨-, hrun⟩ := List.forall_mem_cons.1 hrun
    rw [List.cons_append] at h
    generalize hlines : run ++ rest = more at h
    cases h with
    | last =>
      obtain ⟨rfl, rfl⟩ := List.append_eq_nil_iff.1 hlines
      exact .nil
    | line _ hmore => exact ih hrun (hlines ▸ hmore)

theorem AreLines.append {rest : List Text} (hrun : ∀ line ∈ run, isBlankLine line = true)
    (h : AreLines rest) : AreLines (run ++ rest) := by
  induction run with
  | nil => exact h
  | cons line run ih =>
    obtain ⟨hline, hrun⟩ := List.forall_mem_cons.1 hrun
    exact .line (isEnded_of_isBlankLine hline) (ih hrun)

theorem Squeezed.areLines (h : Squeezed input out) (hlines : AreLines input) : AreLines out := by
  induction h with
  | nil => exact .nil
  | line _ h ih =>
    cases hlines with
    | last hne hbody =>
      obtain rfl := h.eq_nil
      exact .last hne hbody
    | line hline hrest => exact .line hline (ih hrest)
  | run _ hrun _ _ ih =>
    exact .append (isBlankLine_of_mem_shortened hrun) (ih (.of_append hrun hlines))

/-! ## No long run is left -/

/-- Whether no three lines in a row are blank. -/
def Sparse (lines : List Text) : Prop :=
  ∀ run, run <:+: lines → (∀ line ∈ run, isBlankLine line = true) → run.length ≤ 2

theorem Sparse.append {rest : List Text} (hrun : run.length ≤ 2)
    (hhead : rest.head?.all (!isBlankLine ·)) (h : Sparse rest) : Sparse (run ++ rest) := by
  intro piece hpiece hblank
  obtain hpiece | hpiece | ⟨front, back, rfl, hfront, hback⟩ := List.infix_append_iff.1 hpiece
  · exact hpiece.length_le.trans hrun
  · exact h piece hpiece hblank
  · -- A piece that goes on into the rest would have its first line, which is not blank.
    cases back with
    | nil => simpa using hfront.length_le.trans hrun
    | cons line back =>
      obtain ⟨more, rfl⟩ := hback
      simp [hblank line (by simp)] at hhead

theorem Squeezed.sparse (h : Squeezed input out) : Sparse out := by
  induction h with
  | nil =>
    intro run hrun _
    simp [List.infix_nil.1 hrun]
  | @line line rest out hline h ih =>
    intro run hrun hblank
    obtain hprefix | hinfix := List.infix_cons_iff.1 hrun
    · cases run with
      | nil => exact Nat.zero_le 2
      | cons first run =>
        obtain ⟨rfl, -⟩ := List.cons_prefix_cons.1 hprefix
        rw [hblank first List.mem_cons_self] at hline
        cases hline
    · exact ih run hinfix hblank
  | @run run rest out _ _ hhead h ih =>
    exact ih.append (length_shortened_le run) (h.head_not_blank hhead)

theorem Squeezed.eq_of_sparse (h : Squeezed input out) (hsparse : Sparse input) :
    out = input := by
  induction h with
  | nil => rfl
  | @line line rest out _ _ ih =>
    rw [ih fun run hrun => hsparse run (hrun.trans (List.suffix_cons line rest).isInfix)]
  | @run run rest out _ hrun _ _ ih =>
    have hshort : run.length ≤ 2 := hsparse run (List.prefix_append run rest).isInfix hrun
    rw [shortened, if_neg (by omega),
      ih fun piece hpiece => hsparse piece (hpiece.trans (List.suffix_append run rest).isInfix)]

/-! ## One scan over the characters -/

def takeBlankLine? (s : Text) : Option (Text × Text) :=
  match s.dropWhile isPad with
  | '\n' :: rest => some (s.takeWhile isPad ++ [chr '\n'], rest)
  | '\r' :: '\n' :: rest => some (s.takeWhile isPad ++ [chr '\r', chr '\n'], rest)
  | _ => none

theorem takeBlankLine?_eq_some_iff :
    takeBlankLine? s = some (line, rest) ↔ isBlankLine line = true ∧ s = line ++ rest := by
  constructor
  · intro h
    have hpad := List.all_eq_true.1 (List.all_takeWhile (p := isPad) (l := s))
    have hsplit := List.takeWhile_append_dropWhile (p := isPad) (l := s)
    unfold takeBlankLine? at h
    split at h
    · next hrest =>
      cases h
      rw [hrest] at hsplit
      exact ⟨isBlankLine_iff.2 ⟨_, hpad, .inl rfl⟩, by simpa using hsplit.symm⟩
    · next hrest =>
      cases h
      rw [hrest] at hsplit
      exact ⟨isBlankLine_iff.2 ⟨_, hpad, .inr rfl⟩, by simpa using hsplit.symm⟩
    · cases h
  · rintro ⟨hline, rfl⟩
    obtain ⟨pad, hpad, rfl | rfl⟩ := isBlankLine_iff.1 hline
    · rw [List.append_assoc, takeBlankLine?, dropWhile_stop hpad rfl, takeWhile_stop hpad rfl]
      rfl
    · rw [List.append_assoc, takeBlankLine?, dropWhile_stop hpad rfl, takeWhile_stop hpad rfl]
      rfl

theorem length_lt_of_takeBlankLine? (h : takeBlankLine? s = some (line, rest)) :
    rest.length < s.length := by
  obtain ⟨hline, rfl⟩ := takeBlankLine?_eq_some_iff.1 h
  obtain ⟨body, -, rfl⟩ := isEnded_of_isBlankLine hline
  simp
  omega

def takeBlankLines (s : Text) : List Text × Text :=
  match h : takeBlankLine? s with
  | none => ([], s)
  | some (line, rest) =>
    have : rest.length < s.length := length_lt_of_takeBlankLine? h
    (line :: (takeBlankLines rest).1, (takeBlankLines rest).2)
termination_by s.length

theorem takeBlankLines_of_isBlankLine (h : isBlankLine line = true) (s : Text) :
    takeBlankLines (line ++ s) = (line :: (takeBlankLines s).1, (takeBlankLines s).2) := by
  have htake : takeBlankLine? (line ++ s) = some (line, s) :=
    takeBlankLine?_eq_some_iff.2 ⟨h, rfl⟩
  rw [takeBlankLines]
  split
  · next hnone => exact absurd (htake.symm.trans hnone) (by simp)
  · next line' rest hsome =>
    obtain ⟨rfl, rfl⟩ := Prod.mk.inj (Option.some.inj (htake.symm.trans hsome))
    rfl

theorem takeBlankLines_of_head {rest : List Text} (hrest : AreLines rest)
    (hhead : rest.head?.all (!isBlankLine ·)) :
    takeBlankLines rest.flatten = ([], rest.flatten) := by
  rw [takeBlankLines]
  split
  · rfl
  · next line more hsome =>
    -- A blank line at the front of the text would be the first of its lines.
    obtain ⟨hline, hflatten⟩ := takeBlankLine?_eq_some_iff.1 hsome
    have hlines := (isEnded_of_isBlankLine hline).lines_append more
    rw [← hflatten, hrest.lines_flatten] at hlines
    simp [hlines, hline] at hhead

theorem takeBlankLines_flatten {rest : List Text} (hrun : ∀ line ∈ run, isBlankLine line = true)
    (hrest : AreLines rest) (hhead : rest.head?.all (!isBlankLine ·)) :
    takeBlankLines (run ++ rest).flatten = (run, rest.flatten) := by
  induction run with
  | nil => exact takeBlankLines_of_head hrest hhead
  | cons line run ih =>
    obtain ⟨hline, hrun⟩ := List.forall_mem_cons.1 hrun
    rw [List.cons_append, List.flatten_cons, takeBlankLines_of_isBlankLine hline, ih hrun]

theorem length_takeBlankLines_le (s : Text) : (takeBlankLines s).2.length ≤ s.length := by
  fun_induction takeBlankLines s with
  | case1 => exact Nat.le_refl _
  | case2 s line rest h this ih => exact ih.trans this.le

theorem length_takeBlankLines_lt (h : 0 < (takeBlankLines s).1.length) :
    (takeBlankLines s).2.length < s.length := by
  revert h
  fun_cases takeBlankLines s with
  | case1 => exact fun h => absurd h (Nat.lt_irrefl 0)
  | case2 line rest _ hlt => exact fun _ => (length_takeBlankLines_le rest).trans_lt hlt

/-- Squeezes the runs of blank lines in one scan. Where a run may start, which is at the front of
the text and behind a newline that belongs to no run, as many blank lines as there are are taken. -/
def squeezeFrom (ready : Bool) : Text → Text
  | [] => []
  | c :: s =>
    if h : ready = true ∧ 3 ≤ (takeBlankLines (c :: s)).1.length then
      have : (takeBlankLines (c :: s)).2.length < (c :: s).length :=
        length_takeBlankLines_lt (Nat.lt_of_lt_of_le (by decide) h.2)
      lineEndOf (takeBlankLines (c :: s)).1 ++ lineEndOf (takeBlankLines (c :: s)).1 ++
        squeezeFrom false (takeBlankLines (c :: s)).2
    else c :: squeezeFrom (c == '\n') s
termination_by s => s.length
decreasing_by
  · exact this
  · exact Nat.lt_succ_self _

theorem squeezeFrom_nil (ready : Bool) : squeezeFrom ready [] = [] := by
  rw [squeezeFrom]

theorem squeezeFrom_cons (c : CodePoint) (s : Text) :
    squeezeFrom false (c :: s) = c :: squeezeFrom (c == '\n') s := by
  rw [squeezeFrom, dif_neg (by simp)]

theorem squeezeFrom_of_lt (h : (takeBlankLines s).1.length < 3) :
    squeezeFrom true s = squeezeFrom false s := by
  cases s with
  | nil => rw [squeezeFrom_nil, squeezeFrom_nil]
  | cons c s => rw [squeezeFrom_cons, squeezeFrom, dif_neg (by omega)]

theorem squeezeFrom_of_le (h : 3 ≤ (takeBlankLines s).1.length) :
    squeezeFrom true s = (shortened (takeBlankLines s).1).flatten ++
      squeezeFrom false (takeBlankLines s).2 := by
  cases s with
  | nil =>
    rw [takeBlankLines] at h
    exact absurd h (by decide)
  | cons c s =>
    rw [squeezeFrom, dif_pos ⟨rfl, h⟩, shortened, if_pos h]
    simp

theorem squeezeFrom_of_not_mem (h : chr '\n' ∉ body) (s : Text) :
    squeezeFrom false (body ++ s) = body ++ squeezeFrom false s := by
  induction body with
  | nil => rfl
  | cons c body ih =>
    obtain ⟨hc, hbody⟩ := not_or.1 (List.mem_cons.not.1 h)
    rw [List.cons_append, squeezeFrom_cons, beq_false_of_ne (Ne.symm hc), ih hbody,
      List.cons_append]

theorem squeezeFrom_line (h : IsEnded line) (s : Text) :
    squeezeFrom false (line ++ s) = line ++ squeezeFrom true s := by
  obtain ⟨body, hbody, rfl⟩ := h
  rw [List.append_assoc, squeezeFrom_of_not_mem hbody, List.singleton_append, squeezeFrom_cons,
    List.append_assoc]
  rfl

theorem squeezeFrom_short {rest : List Text} (hrun : ∀ line ∈ run, isBlankLine line = true)
    (hlength : run.length ≤ 2) (hrest : AreLines rest) (hhead : rest.head?.all (!isBlankLine ·)) :
    squeezeFrom true (run ++ rest).flatten = run.flatten ++ squeezeFrom true rest.flatten := by
  induction run with
  | nil => rfl
  | cons line run ih =>
    have htake := takeBlankLines_flatten hrun hrest hhead
    obtain ⟨hline, hrun⟩ := List.forall_mem_cons.1 hrun
    rw [squeezeFrom_of_lt (by rw [htake]; exact Nat.lt_succ_of_le hlength), List.cons_append,
      List.flatten_cons, squeezeFrom_line (isEnded_of_isBlankLine hline),
      ih hrun ((Nat.le_succ _).trans hlength), List.flatten_cons, List.append_assoc]

/-- The scan does the same. Behind a run it is not ready, and there no blank line stands. -/
theorem Squeezed.squeezeFrom_flatten (h : Squeezed input out) (hlines : AreLines input) :
    squeezeFrom true input.flatten = out.flatten ∧
      (input.head?.all (!isBlankLine ·) → squeezeFrom false input.flatten = out.flatten) := by
  induction h with
  | nil => exact ⟨squeezeFrom_nil true, fun _ => squeezeFrom_nil false⟩
  | @line line rest out hline h ih =>
    have hnone := takeBlankLines_of_head hlines (by simpa using hline)
    have hscan : squeezeFrom false (line :: rest).flatten = (line :: out).flatten := by
      cases hlines with
      | last _ hbody =>
        obtain rfl := h.eq_nil
        rw [List.flatten_singleton, ← List.append_nil line, squeezeFrom_of_not_mem hbody,
          squeezeFrom_nil, List.append_nil]
      | line hended hrest =>
        rw [List.flatten_cons, squeezeFrom_line hended, (ih hrest).1, List.flatten_cons]
    rw [squeezeFrom_of_lt (by rw [hnone]; exact Nat.succ_pos 2)]
    exact ⟨hscan, fun _ => hscan⟩
  | @run run rest out hne hrun hhead h ih =>
    have hrest := hlines.of_append hrun
    obtain ⟨hready, hbehind⟩ := ih hrest
    constructor
    · by_cases hlength : 3 ≤ run.length
      · have htake := takeBlankLines_flatten hrun hrest hhead
        rw [squeezeFrom_of_le (by rwa [htake]), htake, hbehind hhead, List.flatten_append]
      · rw [squeezeFrom_short hrun (by omega) hrest hhead, hready, shortened, if_neg hlength,
          List.flatten_append]
    · obtain ⟨line, run, rfl⟩ := List.exists_cons_of_ne_nil hne
      simp [hrun line List.mem_cons_self]

/-! ## Squeezing -/

theorem squeezed_lines (s : Text) : Squeezed (lines s) (lines (squeezeBlankLines s)) := by
  obtain ⟨out, hout, heq⟩ := @exists_squeezed [] (lines s) (List.forall_mem_nil _)
  have hlines := (hout.areLines (areLines_lines s)).lines_flatten
  rwa [squeezeBlankLines, heq, hlines]

theorem Squeezed.eq_lines (h : Squeezed (lines s) out) : out = lines (squeezeFrom true s) := by
  have hscan := (h.squeezeFrom_flatten (areLines_lines s)).1
  rw [flatten_lines] at hscan
  rw [hscan, (h.areLines (areLines_lines s)).lines_flatten]

/-- Each whole run of three or more blank lines becomes two line ends, and all other lines stay.
One scan does it, no three blank lines in a row are left, and a second time nothing changes. -/
theorem squeezed_lines_iff (s : Text) :
    (lines s).flatten = s ∧ AreLines (lines s) ∧
      (∀ out, Squeezed (lines s) out ↔ out = lines (squeezeBlankLines s)) ∧
      squeezeBlankLines s = squeezeFrom true s ∧
      Sparse (lines (squeezeBlankLines s)) ∧
      (squeezeBlankLines s = s ↔ Sparse (lines s)) ∧
      squeezeBlankLines (squeezeBlankLines s) = squeezeBlankLines s := by
  have hscan : ∀ s, squeezeBlankLines s = squeezeFrom true s := by
    intro s
    rw [← flatten_lines (squeezeBlankLines s), (squeezed_lines s).eq_lines, flatten_lines]
  have hsparse : ∀ s, Sparse (lines s) → squeezeBlankLines s = s := by
    intro s h
    rw [← flatten_lines (squeezeBlankLines s), (squeezed_lines s).eq_of_sparse h, flatten_lines]
  refine ⟨flatten_lines s, areLines_lines s, fun out => ⟨fun h => ?_, ?_⟩, hscan s,
    (squeezed_lines s).sparse, ⟨fun h => ?_, hsparse s⟩, hsparse _ (squeezed_lines s).sparse⟩
  · rw [hscan]
    exact h.eq_lines
  · rintro rfl
    exact squeezed_lines s
  · have hout := (squeezed_lines s).sparse
    rwa [h] at hout

end Stencil.Text
