import AuditShell.Prompt.Template
import Mathlib.Data.List.Chain
/-!
# Templates expanded in one pass

`expand_in_one_pass`: a template is cut into parts in one way only, whatever the values are. A part is
a mark, which is a backslash with one of four letters, or any other byte. The expansion is the values
of the marks and the other bytes, in order, so a value is put in as it is and never looked at again.
A template can be expanded in two halves wherever the cut between them goes through no mark (`Seam`).

That a list of parts is the cut of a text is a fact about neighbours (`Cut`): nowhere does a backslash
that is copied stand before one of the letters.
-/
namespace AuditShell.Prompt

/-! ## Marks -/

/-- What a backslash with a letter stands for. -/
inductive Mark where
  | user
  | host
  | cwd
  | dollar
  deriving DecidableEq, Repr

namespace Mark

def letter : Mark → UInt8
  | user => 0x75
  | host => 0x68
  | cwd => 0x77
  | dollar => 0x24

/-- What is shown for a mark. -/
def value (v : Vars) : Mark → Bytes
  | user => v.user
  | host => v.host
  | cwd => v.shortCwd
  | dollar => if v.root then text "#" else text "$"

theorem letter_inj {m n : Mark} (h : m.letter = n.letter) : m = n := by
  cases m <;> cases n <;> first | rfl | exact absurd h (by decide)

theorem letter_ne_backslash (m : Mark) : m.letter ≠ 0x5C := by
  cases m <;> decide

theorem value?_letter (v : Vars) (m : Mark) : v.value? m.letter = some (m.value v) := by
  cases m <;> rfl

theorem value?_eq_none {v : Vars} {c : UInt8} (h : ∀ m : Mark, c ≠ m.letter) : v.value? c = none := by
  have huser : c ≠ 0x75 := h user
  have hhost : c ≠ 0x68 := h host
  have hcwd : c ≠ 0x77 := h cwd
  have hdollar : c ≠ 0x24 := h dollar
  rw [Vars.value?, if_neg huser, if_neg hhost, if_neg hcwd, if_neg hdollar]

end Mark

theorem expand_mark_cons (v : Vars) (m : Mark) (rest : Bytes) :
    expand v (0x5C :: m.letter :: rest) = m.value v ++ expand v rest := by
  rw [expand, Mark.value?_letter]

/-- A byte is copied if it is no backslash before a letter. -/
theorem expand_byte_cons (v : Vars) {b : UInt8} {rest : Bytes} (h : b = 0x5C → ∀ m : Mark, rest.head? ≠ some m.letter) :
    expand v (b :: rest) = b :: expand v rest := by
  by_cases hb : b = 0x5C
  · subst hb
    cases rest with
    | nil => rfl
    | cons c rest =>
      have hc : ∀ m : Mark, c ≠ m.letter := fun m hm => h rfl m (congrArg some hm)
      rw [expand, Mark.value?_eq_none hc]
  · rw [expand]
    rintro c rest' rfl
    exact absurd rfl hb

/-! ## Parts -/

/-- A part of a template. -/
inductive Part where
  | mark (m : Mark)
  | byte (b : UInt8)
  deriving DecidableEq, Repr

namespace Part

/-- The part as it stands in the template. -/
def source : Part → Bytes
  | mark m => [0x5C, m.letter]
  | byte b => [b]

/-- The part as it is shown. -/
def shown (v : Vars) : Part → Bytes
  | mark m => m.value v
  | byte b => [b]

/-- The second part can stand behind the first: the two are not a backslash and a letter that were
taken apart. -/
def Before (p q : Part) : Prop := p = .byte 0x5C → ∀ m : Mark, q ≠ .byte m.letter

end Part

/-- The parts of a template in order. -/
structure Cut (ps : List Part) (tmpl : Bytes) : Prop where
  source : ps.flatMap Part.source = tmpl
  neighbours : ps.IsChain Part.Before

/-- A mark goes across the border of two texts. -/
def Seam (s t : Bytes) : Prop := s.getLast? = some 0x5C ∧ ∃ m : Mark, t.head? = some m.letter

namespace Cut

theorem nil : Cut [] [] := ⟨rfl, .nil⟩

/-- What starts with a letter starts with a byte that is copied. -/
theorem head_of_letter {ps : List Part} {m : Mark} (h : (ps.flatMap Part.source).head? = some m.letter) :
    ps.head? = some (.byte m.letter) := by
  cases ps with
  | nil => cases h
  | cons p ps =>
    cases p with
    | byte b => exact congrArg (some ∘ Part.byte) (Option.some.inj h)
    | mark n => exact absurd (Option.some.inj h).symm m.letter_ne_backslash

theorem getLast_of_backslash {ps : List Part} (h : ps.getLast? = some (.byte 0x5C)) :
    (ps.flatMap Part.source).getLast? = some 0x5C := by
  obtain ⟨qs, rfl⟩ := List.getLast?_eq_some_iff.mp h
  rw [List.flatMap_append]
  exact List.getLast?_concat

theorem append {ps qs : List Part} {s t : Bytes} (hs : Cut ps s) (ht : Cut qs t) (h : ¬ Seam s t) :
    Cut (ps ++ qs) (s ++ t) := by
  refine ⟨by rw [List.flatMap_append, hs.source, ht.source], ?_⟩
  refine List.isChain_append.mpr ⟨hs.neighbours, ht.neighbours, ?_⟩
  rintro p hp q hq rfl m rfl
  refine h ⟨?_, m, ?_⟩
  · rw [← hs.source]
    exact getLast_of_backslash hp
  · obtain ⟨rest, rfl⟩ := List.head?_eq_some_iff.mp hq
    rw [← ht.source]
    rfl

theorem mark (m : Mark) : Cut [.mark m] [0x5C, m.letter] := ⟨rfl, .singleton _⟩

theorem byte (b : UInt8) : Cut [.byte b] [b] := ⟨rfl, .singleton _⟩

/-- Every template has parts. -/
theorem exists_cut (tmpl : Bytes) : ∃ ps, Cut ps tmpl := by
  match tmpl with
  | [] => exact ⟨[], nil⟩
  | b :: rest =>
    by_cases hmark : Seam [b] rest
    · obtain ⟨hb, m, hm⟩ := hmark
      obtain ⟨rest, rfl⟩ := List.head?_eq_some_iff.mp hm
      obtain ⟨ps, hps⟩ := exists_cut rest
      obtain rfl : b = 0x5C := Option.some.inj hb
      have hseam : ¬ Seam [0x5C, m.letter] rest := fun h => m.letter_ne_backslash (Option.some.inj h.1)
      exact ⟨_, (mark m).append hps hseam⟩
    · obtain ⟨ps, hps⟩ := exists_cut rest
      exact ⟨_, (byte b).append hps hmark⟩
termination_by tmpl.length

/-- A mark is not the parts that its two bytes would be. -/
theorem mark_ne {ps qs : List Part} {b : UInt8} {m : Mark} (hchain : (Part.byte b :: ps).IsChain Part.Before) :
    (Part.byte b :: ps).flatMap Part.source ≠ (Part.mark m :: qs).flatMap Part.source := by
  intro h
  obtain ⟨rfl, hrest⟩ := List.cons.inj h
  have hletter : (ps.flatMap Part.source).head? = some m.letter := congrArg List.head? hrest
  have hhead := head_of_letter hletter
  exact (List.isChain_cons.mp hchain).1 _ hhead rfl m rfl

/-- Parts with one source are the same, part by part: the first ones begin with the same byte, and only
a backslash begins both a mark and a byte that is copied. -/
theorem eq_of_source {ps qs : List Part} (hps : ps.IsChain Part.Before) (hqs : qs.IsChain Part.Before)
    (h : ps.flatMap Part.source = qs.flatMap Part.source) : ps = qs := by
  induction ps generalizing qs with
  | nil =>
    match qs with
    | [] => rfl
    | .mark _ :: _ | .byte _ :: _ => cases h
  | cons p ps ih =>
    match p, qs with
    | .mark _, [] | .byte _, [] => cases h
    | .mark m, .mark n :: qs =>
      obtain ⟨hletter, hrest⟩ := List.cons.inj (List.cons.inj h).2
      have htail : ps = qs := ih hps.tail hqs.tail hrest
      rw [Mark.letter_inj hletter, htail]
    | .byte b, .byte c :: qs =>
      obtain ⟨hbyte, hrest⟩ := List.cons.inj h
      have htail : ps = qs := ih hps.tail hqs.tail hrest
      rw [hbyte, htail]
    | .byte b, .mark m :: qs => exact absurd h (mark_ne hps)
    | .mark m, .byte b :: qs => exact absurd h.symm (mark_ne hqs)

/-- No template has other parts as well. -/
theorem unique {ps qs : List Part} {tmpl : Bytes} (hp : Cut ps tmpl) (hq : Cut qs tmpl) : ps = qs :=
  eq_of_source hp.neighbours hq.neighbours (hp.source.trans hq.source.symm)

/-- The expansion is what the parts show. -/
theorem expand_eq {ps : List Part} {tmpl : Bytes} (h : Cut ps tmpl) (v : Vars) :
    expand v tmpl = ps.flatMap (Part.shown v) := by
  obtain ⟨rfl, hchain⟩ := h
  induction ps with
  | nil => rfl
  | cons p ps ih =>
    have hrest := ih hchain.tail
    cases p with
    | mark m =>
      rw [List.flatMap_cons, List.flatMap_cons, ← hrest]
      exact expand_mark_cons v m _
    | byte b =>
      rw [List.flatMap_cons, List.flatMap_cons, ← hrest]
      refine expand_byte_cons v fun hb m hm => ?_
      exact (List.isChain_cons.mp hchain).1 _ (head_of_letter hm) (congrArg _ hb) m rfl

end Cut

/-! ## Halves -/

/-- Two texts may be expanded apart if no mark goes across their border. -/
theorem expand_append (v : Vars) {s t : Bytes} (h : ¬ Seam s t) : expand v (s ++ t) = expand v s ++ expand v t := by
  obtain ⟨ps, hps⟩ := Cut.exists_cut s
  obtain ⟨qs, hqs⟩ := Cut.exists_cut t
  rw [(hps.append hqs h).expand_eq, hps.expand_eq, hqs.expand_eq, List.flatMap_append]

/-- A mark shows its value wherever it stands, also behind a backslash. -/
theorem expand_mark (v : Vars) (s t : Bytes) (m : Mark) :
    expand v (s ++ 0x5C :: m.letter :: t) = expand v s ++ m.value v ++ expand v t := by
  have hseam : ¬ Seam s (0x5C :: m.letter :: t) := by
    rintro ⟨-, n, hn⟩
    exact n.letter_ne_backslash (Option.some.inj hn).symm
  rw [expand_append v hseam, expand_mark_cons, List.append_assoc]

/-! ## The working directory -/

/-- The working directory is the home directory or lies below it. -/
def Vars.InHome (v : Vars) : Prop := v.home ≠ [] ∧ (v.cwd = v.home ∨ v.home ++ text "/" <+: v.cwd)

theorem Vars.inHome_iff {v : Vars} :
    v.InHome ↔ v.home ≠ [] ∧ (v.cwd = v.home ∨ (v.home ++ text "/").isPrefixOf v.cwd = true) := by
  rw [InHome, List.isPrefixOf_iff_prefix]

theorem Vars.shortCwd_of_not_inHome {v : Vars} (h : ¬ v.InHome) : v.shortCwd = v.cwd :=
  if_neg (mt inHome_iff.mpr h)

/-- The home directory is cut off at the end of one of its components. -/
theorem Vars.shortCwd_of_inHome {v : Vars} (h : v.InHome) :
    ∃ rest, v.shortCwd = text "~" ++ rest ∧ v.home ++ rest = v.cwd ∧ (rest = [] ∨ text "/" <+: rest) := by
  have hshort : v.shortCwd = text "~" ++ v.cwd.drop v.home.length := if_pos (inHome_iff.mp h)
  refine ⟨_, hshort, ?_⟩
  rcases h.2 with hcwd | ⟨below, hcwd⟩
  · rw [hcwd, List.drop_length]
    exact ⟨List.append_nil _, .inl rfl⟩
  · rw [← hcwd, List.append_assoc, List.drop_left]
    exact ⟨rfl, .inr (List.prefix_append _ _)⟩

/-! ## All together -/

/-- The parts of a template do not depend on the values, there is one way only to cut it, and its
expansion is what the parts show: the value of each mark as it is, and every other byte. So a mark is
replaced wherever it stands, and halves without a mark across their border may be expanded apart. The
working directory is shown as it is if it is not in the home directory, and otherwise as `~` with the
rest of the path, which comes after the home directory at the end of a component. -/
theorem expand_in_one_pass :
    (∀ tmpl, ∃ ps, (∀ qs, Cut qs tmpl ↔ qs = ps) ∧ ∀ v, expand v tmpl = ps.flatMap (Part.shown v)) ∧
    (∀ v s t, ∀ m : Mark, expand v (s ++ 0x5C :: m.letter :: t) = expand v s ++ m.value v ++ expand v t) ∧
    (∀ v s t, ¬ Seam s t → expand v (s ++ t) = expand v s ++ expand v t) ∧
    (∀ v : Vars, ¬ v.InHome → v.shortCwd = v.cwd) ∧
    ∀ v : Vars, v.InHome →
      ∃ rest, v.shortCwd = text "~" ++ rest ∧ v.home ++ rest = v.cwd ∧ (rest = [] ∨ text "/" <+: rest) := by
  refine ⟨fun tmpl => ?_, expand_mark, fun v s t => expand_append v, fun v => Vars.shortCwd_of_not_inHome,
    fun v => Vars.shortCwd_of_inHome⟩
  obtain ⟨ps, hps⟩ := Cut.exists_cut tmpl
  exact ⟨ps, fun qs => ⟨fun hqs => hqs.unique hps, fun h => h ▸ hps⟩, hps.expand_eq⟩

/-- Values and directories that look like marks themselves: each comes out as it is, also behind a
backslash, and a directory that only starts like the home directory is not cut. -/
theorem expand_in_one_pass_nested :
    let v : Vars :=
      { user := text "\\h", host := text "\\u\\", cwd := text "/r\\w/\\$", home := text "/r\\w", root := true }
    let w : Vars := { v with cwd := text "/r\\ww" }
    ¬ Seam (text "\\\\u") (text "@\\h\\w\\$") ∧ v.InHome ∧ ¬ w.InHome ∧
      expand v (text "\\\\u@\\h\\w\\$") = text "\\" ++ text "\\h" ++ text "@" ++ text "\\u\\" ++ text "~/\\$" ++ text "#" ∧
      (∃ rest, v.shortCwd = text "~" ++ rest ∧ v.home ++ rest = v.cwd) ∧ w.shortCwd = w.cwd := by
  intro v w
  have hseam : ¬ Seam (text "\\\\u") (text "@\\h\\w\\$") := by
    rintro ⟨-, m, hm⟩
    cases m <;> exact absurd hm (by decide)
  have hv : v.InHome := by
    rw [Vars.inHome_iff]
    decide
  have hw : ¬ w.InHome := by
    rw [Vars.inHome_iff]
    decide
  obtain ⟨-, -, happend, hout, hin⟩ := expand_in_one_pass
  obtain ⟨rest, hshort, hcwd, -⟩ := hin v hv
  exact ⟨hseam, hv, hw, (happend v _ _ hseam).trans (by decide), ⟨rest, hshort, hcwd⟩, hout w hw⟩

end AuditShell.Prompt
