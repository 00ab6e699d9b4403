import AuditShell.Proofs.Numeral
import AuditShell.Proofs.Quoted
import AuditShell.Tree.Print
/-!
# Dumps told apart

`Tree.dump_inj`: a dump says all there is to say about its tree, so two trees with one dump are one
tree. Nothing is asked of the words: a quoted word ends at its closing quote, whatever it holds.

A dump is an outline. Nodes are written by a function of their depth that starts with the indent of
the depth, goes deeper only for the parts of the node, and so ends where the text comes back to its
depth or above (`Within`). One induction goes from the nodes of a depth to their list
(`IsOutline.flatMap_inj`), for redirects, commands and pipelines alike.
-/
namespace AuditShell

open Audit.Entry (intChars ofInt_eq digits_toDigits decimalValue_toDigits)

/-! ## Separators -/

theorem eq_nil_of_sep {sep : UInt8} {xs zs s t : Bytes} (hx : sep ∉ xs ++ zs) (h : sep :: s = zs ++ sep :: t) :
    zs = [] := by
  cases zs with
  | nil => rfl
  | cons z zs =>
    obtain rfl := (List.cons.inj h).1
    exact absurd (List.mem_append_right _ List.mem_cons_self) hx

/-- What stands before the first separator, and what stands behind it. -/
theorem append_sep_inj {sep : UInt8} {xs ys s t : Bytes} (hx : sep ∉ xs) (hy : sep ∉ ys)
    (h : xs ++ sep :: s = ys ++ sep :: t) : xs = ys ∧ s = t := by
  rcases List.append_eq_append_iff.mp h with ⟨zs, rfl, hz⟩ | ⟨zs, rfl, hz⟩
  · obtain rfl := eq_nil_of_sep hy hz
    exact ⟨(List.append_nil _).symm, (List.cons.inj hz).2⟩
  · obtain rfl := eq_nil_of_sep hx hz
    exact ⟨List.append_nil _, (List.cons.inj hz).2.symm⟩

/-! ## Names of kinds -/

theorem notMem_toDigits {c : Char} (h : Json.isDigit c = false) (n : ℕ) : c ∉ Nat.toDigits 10 n := by
  intro hc
  rw [(digits_toDigits n).2 c hc] at h
  cases h

theorem intChars_inj {m n : ℤ} (h : intChars m = intChars n) : m = n := by
  have hminus := notMem_toDigits (c := '-') (by decide)
  have hdigits {j k : ℕ} (he : Nat.toDigits 10 j = Nat.toDigits 10 k) : j = k := by
    rw [← decimalValue_toDigits j, he, decimalValue_toDigits]
  unfold intChars at h
  split at h <;> split at h
  next =>
    have habs : m.natAbs = n.natAbs := hdigits (List.cons.inj h).2
    omega
  next => exact absurd (h ▸ List.mem_cons_self) (hminus _)
  next => exact absurd (h.symm ▸ List.mem_cons_self) (hminus _)
  next =>
    have habs : m.natAbs = n.natAbs := hdigits h
    omega

theorem Bytes.ofInt_inj {m n : ℤ} (h : Bytes.ofInt m = Bytes.ofInt n) : m = n := by
  rw [ofInt_eq, ofInt_eq] at h
  have hchars := congrArg Utf8.decode h
  rw [Utf8.decode_encode, Utf8.decode_encode] at hchars
  exact intChars_inj hchars

theorem Bytes.blank_notMem_ofInt (n : ℤ) : 0x20 ∉ Bytes.ofInt n := by
  have hdigits := notMem_toDigits (c := ' ') (by decide)
  rw [ofInt_eq, Utf8.mem_encode (by decide), intChars]
  split
  next => exact List.not_mem_cons_of_ne_of_not_mem (by decide) (hdigits _)
  next => exact hdigits _

namespace Redirect.Kind

theorem blank_notMem_name (k : Redirect.Kind) : 0x20 ∉ k.name := by
  cases k with
  | other n =>
    rw [name, List.mem_append, List.mem_append, not_or, not_or]
    exact ⟨⟨by decide, Bytes.blank_notMem_ofInt n⟩, by decide⟩
  | _ => decide

theorem name_inj {j k : Redirect.Kind} (h : j.name = k.name) : j = k := by
  -- names of different forms differ in one of their first two bytes, so only the number is left
  cases j <;> cases k
  case other.other m n =>
    have hnumber := List.append_cancel_left (List.append_cancel_right h)
    rw [Bytes.ofInt_inj hnumber]
  all_goals first | rfl | cases h

/-- Different numbers are different kinds. -/
theorem ofInt_inj {m n : ℤ} : ofInt m = ofInt n ↔ m = n := by
  have hnumber (k : ℤ) : (ofInt k).toInt = k := by
    unfold ofInt
    split_ifs with h0 h1 h2
    · exact h0.symm
    · exact h1.symm
    · exact h2.symm
    · rfl
  constructor
  · intro h
    rw [← hnumber m, h, hnumber]
  · rintro rfl
    rfl

end Redirect.Kind

namespace Tree

/-! ## Outlines -/

/-- The text goes on at a depth or above. -/
def Within (depth : ℕ) (s : Bytes) : Prop := ¬ indent (depth + 1) <+: s

theorem indent_succ (depth : ℕ) : indent (depth + 1) = indent depth ++ [0x20, 0x20] := by
  rw [indent, Nat.mul_succ, List.replicate_add]
  rfl

theorem within_nil (depth : ℕ) : Within depth [] := by
  intro h
  rw [indent_succ] at h
  simp at h

theorem Within.succ {depth : ℕ} {s : Bytes} (h : Within depth s) : Within (depth + 1) s := by
  intro hdeep
  refine h (List.IsPrefix.trans ?_ hdeep)
  rw [indent_succ (depth + 1)]
  exact List.prefix_append _ _

theorem within_indent {depth : ℕ} {b : UInt8} (hb : b ≠ 0x20) (s : Bytes) : Within depth (indent depth ++ b :: s) := by
  intro h
  rw [indent_succ, List.prefix_append_right_inj] at h
  exact hb (List.cons_prefix_cons.mp h).1.symm

/-- Nodes are written at their depth, each up to where the text comes back to this depth or above. -/
structure IsOutline {α : Type} (write : ℕ → α → Bytes) : Prop where
  start : ∀ depth a, ∃ b s, b ≠ 0x20 ∧ write depth a = indent depth ++ b :: s
  inj : ∀ {depth a b s t}, Within depth s → Within depth t → write depth a ++ s = write depth b ++ t → a = b ∧ s = t

namespace IsOutline

variable {α : Type} {write : ℕ → α → Bytes}

theorem within (h : IsOutline write) (depth : ℕ) (a : α) (s : Bytes) : Within depth (write depth a ++ s) := by
  obtain ⟨b, t, hb, hwrite⟩ := h.start depth a
  rw [hwrite, List.append_assoc]
  exact within_indent hb _

theorem stops (h : IsOutline write) {depth : ℕ} {s : Bytes} (hs : Within depth s) : Stops (write (depth + 1)) s := by
  intro a x hx
  obtain ⟨b, t, -, hwrite⟩ := h.start (depth + 1) a
  refine hs ?_
  rw [← hx, hwrite, List.append_assoc]
  exact List.prefix_append _ _

/-- The nodes below a depth, up to where the text comes back to it. -/
theorem flatMap_inj (h : IsOutline write) {depth : ℕ} {as bs : List α} {s t : Bytes} (hs : Within depth s)
    (ht : Within depth t) (he : as.flatMap (write (depth + 1)) ++ s = bs.flatMap (write (depth + 1)) ++ t) :
    as = bs ∧ s = t :=
  -- behind a node stands the next one or what ends the list, and neither starts deeper than the node
  flatMap_append_inj (fun _ _ _ _ _ _ hx hy => h.inj hx hy) (h.within (depth + 1)) ⟨hs.succ, h.stops hs⟩
    ⟨ht.succ, h.stops ht⟩ he

end IsOutline

/-! ## Nodes -/

/-- A redirect is a line that nothing may be added to. -/
theorem isOutline_dumpRedirect : IsOutline dumpRedirect where
  start depth r := ⟨0x72, _, by decide, by simp only [dumpRedirect, List.append_assoc]; rfl⟩
  inj {depth a b s t} _ _ h := by
    simp only [dumpRedirect, List.append_assoc] at h
    have hline := List.append_cancel_left (List.append_cancel_left h)
    obtain ⟨hname, hpath⟩ := append_sep_inj a.kind.blank_notMem_name b.kind.blank_notMem_name hline
    obtain ⟨hpath, hrest⟩ := quoted_append_inj.mp hpath
    obtain ⟨j, p⟩ := a
    obtain ⟨k, q⟩ := b
    cases Redirect.Kind.name_inj hname
    cases hpath
    exact ⟨rfl, List.append_cancel_left hrest⟩

/-- The words of a command, up to the end of the line. -/
theorem words_inj {vs ws : List Bytes} {s t : Bytes}
    (h : vs.flatMap (fun w => text " " ++ quoted w) ++ (text "\n" ++ s) =
      ws.flatMap (fun w => text " " ++ quoted w) ++ (text "\n" ++ t)) : vs = ws ∧ s = t := by
  have hstop (r : Bytes) : True ∧ Stops (fun w => text " " ++ quoted w) (text "\n" ++ r) :=
    ⟨trivial, fun w x hx => absurd (List.cons.inj hx).1 (by decide)⟩
  have hword : ∀ v ∈ vs, ∀ w ∈ ws, ∀ x y : Bytes, True → True →
      (text " " ++ quoted v) ++ x = (text " " ++ quoted w) ++ y → v = w ∧ x = y := by
    intro v _ w _ x y _ _ hx
    simp only [List.append_assoc] at hx
    exact quoted_append_inj.mp (List.append_cancel_left hx)
  obtain ⟨hwords, hrest⟩ :=
    flatMap_append_inj (P := fun _ => True) hword (fun _ _ => trivial) (hstop s) (hstop t) h
  exact ⟨hwords, List.append_cancel_left hrest⟩

theorem isOutline_dumpCommand : IsOutline dumpCommand where
  start depth c := ⟨0x63, _, by decide, by simp only [dumpCommand, List.append_assoc]; rfl⟩
  inj {depth a b s t} hs ht h := by
    simp only [dumpCommand, List.append_assoc] at h
    obtain ⟨hwords, hredirects⟩ := words_inj (List.append_cancel_left (List.append_cancel_left h))
    obtain ⟨hredirects, hrest⟩ := isOutline_dumpRedirect.flatMap_inj hs ht hredirects
    obtain ⟨vs, rs⟩ := a
    cases hwords
    cases hredirects
    exact ⟨rfl, hrest⟩

theorem isOutline_dumpPipeline : IsOutline dumpPipeline where
  start depth p := ⟨0x70, _, by decide, by simp only [dumpPipeline, List.append_assoc]; rfl⟩
  inj {depth p q s t} hs ht h := by
    simp only [dumpPipeline, List.append_assoc] at h
    exact isOutline_dumpCommand.flatMap_inj hs ht (List.append_cancel_left (List.append_cancel_left h))

/-! ## Trees -/

/-- Two trees have one dump only if they are the same, node for node, word for word and redirect for
redirect, whatever numbers the kinds of their redirects have. -/
theorem dump_inj : (∀ a b : Tree, a.dump = b.dump ↔ a = b) ∧
    ∀ m n : ℤ, Redirect.Kind.ofInt m = Redirect.Kind.ofInt n ↔ m = n := by
  refine ⟨fun a b => ⟨fun h => ?_, fun h => h ▸ rfl⟩, fun m n => Redirect.Kind.ofInt_inj⟩
  cases a with
  | pipeline p =>
    cases b with
    | pipeline q =>
      have hdump : dumpPipeline 0 p ++ [] = dumpPipeline 0 q ++ [] := congrArg (· ++ []) h
      rw [(isOutline_dumpPipeline.inj (within_nil 0) (within_nil 0) hdump).1]
    | sequence qs => cases h
  | sequence ps =>
    cases b with
    | pipeline q => cases h
    | sequence qs =>
      have hdump : ps.flatMap (dumpPipeline 1) ++ [] = qs.flatMap (dumpPipeline 1) ++ [] :=
        congrArg (· ++ []) (List.append_cancel_left h)
      rw [(isOutline_dumpPipeline.flatMap_inj (within_nil 0) (within_nil 0) hdump).1]

end Tree

end AuditShell
