import AuditShell.Number.Binary64
import AuditShell.Proofs.Text
import AuditShell.Text.Quoted
import Mathlib.Tactic.Ring
/-!
# Quoted literals read back

`quoted_append_inj`: a quoted literal ends at its closing quote whatever bytes follow it, and it shows
one text only. The unit that an escaped form stands for is read back from the start of the form
(`Quoted.shows_escapePiece`), so no form begins another one and none begins with the closing quote.

`flatMap_append_inj` goes from one part to many, here from the units of a literal to its text. It is
stated for all lists whose parts are written one after another.
-/
namespace AuditShell

/-! ## Parts one after another -/

/-- No part is written at the beginning of the text. -/
def Stops {α β : Type} (f : α → List β) (s : List β) : Prop := ∀ a x, f a ++ x ≠ s

/-- Parts written one after another can be told apart, and from what follows them, if each can be told
apart from the text behind it. `P` is what that text may be. -/
theorem flatMap_append_inj {α β : Type} {f : α → List β} {P : List β → Prop} {as bs : List α} {s t : List β}
    (hinj : ∀ a ∈ as, ∀ b ∈ bs, ∀ x y, P x → P y → f a ++ x = f b ++ y → a = b ∧ x = y)
    (hpart : ∀ a x, P (f a ++ x)) (hs : P s ∧ Stops f s) (ht : P t ∧ Stops f t)
    (h : as.flatMap f ++ s = bs.flatMap f ++ t) : as = bs ∧ s = t := by
  have hbehind : ∀ (cs : List α) {x : List β}, P x → P (cs.flatMap f ++ x) := by
    intro cs x hx
    cases cs with
    | nil => exact hx
    | cons c cs =>
      rw [List.flatMap_cons, List.append_assoc]
      exact hpart _ _
  induction as generalizing bs with
  | nil =>
    cases bs with
    | nil => exact ⟨rfl, h⟩
    | cons b bs =>
      rw [List.flatMap_cons, List.append_assoc] at h
      exact absurd h.symm (hs.2 _ _)
  | cons a as ih =>
    cases bs with
    | nil =>
      rw [List.flatMap_cons, List.append_assoc] at h
      exact absurd h (ht.2 _ _)
    | cons b bs =>
      rw [List.flatMap_cons, List.append_assoc, List.flatMap_cons, List.append_assoc] at h
      obtain ⟨rfl, hrest⟩ :=
        hinj a List.mem_cons_self b List.mem_cons_self _ _ (hbehind as hs.1) (hbehind bs ht.1) h
      have hinj' := fun c hc d hd => hinj c (List.mem_cons_of_mem _ hc) d (List.mem_cons_of_mem _ hd)
      obtain ⟨rfl, rfl⟩ := ih hinj' hrest
      exact ⟨rfl, rfl⟩

namespace Quoted

/-! ## Reading an escaped form -/

theorem hexDigit?_hexDigit : ∀ n < 16, Binary64.hexDigit? (hexDigit n) = some n := by decide

theorem foldl_hex (width n acc : Nat) :
    (hex width n).foldl (fun k c => 16 * k + (Binary64.hexDigit? c).getD 0) acc = acc * 16 ^ width + n % 16 ^ width := by
  induction width generalizing acc with
  | zero => simp [hex, Nat.mod_one]
  | succ width ih =>
    rw [hex, List.foldl_cons, ih, hexDigit?_hexDigit _ (Nat.mod_lt _ (by decide)), Option.getD_some, Nat.pow_eq,
      Nat.mod_pow_succ, Nat.pow_succ]
    ring

/-- Digits give back the number that they were made from, as far as they go. -/
theorem digitsValue_hex (width n : Nat) : Binary64.digitsValue 16 (hex width n) = n % 16 ^ width := by
  rw [Binary64.digitsValue, foldl_hex]
  omega

theorem hex_inj {w m n : Nat} (hm : m < 16 ^ w) (hn : n < 16 ^ w) (h : hex w m = hex w n) : m = n := by
  rw [← Nat.mod_eq_of_lt hm, ← digitsValue_hex, h, digitsValue_hex, Nat.mod_eq_of_lt hn]

theorem length_hex (width n : Nat) : (hex width n).length = width := by
  induction width with
  | zero => rfl
  | succ width ih => rw [hex, List.length_cons, ih]

/-- The number of the hexadecimal digits that a text starts with. -/
def digits (width : Nat) (cs : List Char) : Nat := Binary64.digitsValue 16 (cs.take width)

theorem digits_hex {w n : Nat} (h : n < 16 ^ w) (rest : List Char) : digits w (hex w n ++ rest) = n := by
  rw [digits, List.take_left' (length_hex w n), digitsValue_hex, Nat.mod_eq_of_lt h]

/-- The character that a character behind a backslash stands for. -/
def unescape (c : Char) : Char :=
  if c = 'a' then '\x07'
  else if c = 'b' then '\x08'
  else if c = 'f' then '\x0C'
  else if c = 'n' then '\n'
  else if c = 'r' then '\r'
  else if c = 't' then '\t'
  else if c = 'v' then '\x0B'
  else c

/-- The unit whose form starts the text, the backslash before it left out. -/
def escapedUnit? : List Char → Option Utf8.Piece
  | [] => none
  | c :: rest =>
    if c = 'x' then
      let n := digits 2 rest
      some (if n < 0x80 then .char (Char.ofNat n) else .stray n.toUInt8)
    else if c = 'u' then some (.char (Char.ofNat (digits 4 rest)))
    else if c = 'U' then some (.char (Char.ofNat (digits 8 rest)))
    else some (.char (unescape c))

/-- The unit whose form starts the text. -/
def unit? : List Char → Option Utf8.Piece
  | [] => none
  | c :: rest => if c = '\\' then escapedUnit? rest else some (.char c)

/-- The form is read as the unit, whatever follows. -/
def Shows (form : List Char) (p : Utf8.Piece) : Prop := ∀ rest, unit? (form ++ rest) = some p

theorem shows_ite {P : Prop} [Decidable P] {x y : List Char} {p : Utf8.Piece} (hx : P → Shows x p)
    (hy : ¬ P → Shows y p) : Shows (if P then x else y) p :=
  iteInduction (motive := (Shows · p)) hx hy

theorem shows_plain {c : Char} (h : c ≠ '\\') : Shows [c] (.char c) := by
  intro rest
  simp [unit?, h]

theorem ofNat_digits {c : Char} {w : Nat} (h : c.toNat < 16 ^ w) (rest : List Char) :
    Char.ofNat (digits w (hex w c.toNat ++ rest)) = c := by
  rw [digits_hex h, Char.ofNat_toNat]

theorem shows_escape (c : Char) : Shows (escape '"' c) (.char c) := by
  have hvalid := Utf8.char_bounds c
  unfold escape
  refine shows_ite ?_ fun hquote => ?_
  · rintro (rfl | rfl) rest <;> rfl
  refine shows_ite (fun _ => shows_plain fun h => hquote (.inr h)) fun _ => ?_
  -- the seven characters with a letter of their own
  iterate 7 refine shows_ite (fun h rest => by subst h; rfl) fun _ => ?_
  refine shows_ite (fun h rest => ?_) fun _ => shows_ite (fun h rest => ?_) fun _ rest => ?_
  · simp [unit?, escapedUnit?, digits_hex (n := c.toNat) (w := 2) (by omega), h]
  · simp [unit?, escapedUnit?, ofNat_digits (w := 4) h]
  · simp [unit?, escapedUnit?, ofNat_digits (c := c) (w := 8) (by omega)]

theorem shows_escapePiece {bs : Bytes} {p : Utf8.Piece} (hp : p ∈ Utf8.pieces bs) : Shows (escapePiece p) p := by
  cases p with
  | char c => exact shows_escape c
  | stray b =>
    intro rest
    have hlow := Utf8.le_of_mem_pieces hp
    have hd : digits 2 (hex 2 b.toNat ++ rest) = b.toNat := digits_hex b.toNat_lt rest
    simp [escapePiece, unit?, escapedUnit?, hd, Nat.not_lt.mpr hlow]

/-! ## Literals -/

/-- The form of a unit as bytes. -/
def pieceBytes (p : Utf8.Piece) : Bytes := Utf8.encode (escapePiece p)

theorem pieceBytes_append_inj {as bs : Bytes} {p q : Utf8.Piece} (hp : p ∈ Utf8.pieces as) (hq : q ∈ Utf8.pieces bs)
    {x y : Bytes} (h : pieceBytes p ++ x = pieceBytes q ++ y) : p = q ∧ x = y := by
  have hread := congrArg (fun b => unit? (Utf8.decode b)) h
  simp only [pieceBytes, Utf8.decode_encode_append, shows_escapePiece hp _, shows_escapePiece hq _] at hread
  obtain rfl := Option.some.inj hread
  exact ⟨rfl, List.append_cancel_left h⟩

/-- No form starts with the quote that closes a literal: only a quote is read from there, and the form
of a quote starts with a backslash. -/
theorem stops_quote (s : Bytes) : Stops pieceBytes (0x22 :: s) := by
  intro p x h
  have hchars : escapePiece p ++ Utf8.decode x = '"' :: Utf8.decode s := by
    rw [← Utf8.decode_encode_append, ← pieceBytes, h]
    exact Utf8.decode_encode_append ['"'] s
  cases p with
  | stray b => exact absurd (List.cons.inj hchars).1 (by decide)
  | char c =>
    have hread := shows_escape c (Utf8.decode x)
    rw [← escapePiece, hchars] at hread
    cases hread
    exact absurd (List.cons.inj hchars).1 (by decide)

theorem quoted_eq (bs : Bytes) : quoted bs = 0x22 :: ((Utf8.pieces bs).flatMap pieceBytes ++ [0x22]) := by
  have hbody : Utf8.encode (body bs) = (Utf8.pieces bs).flatMap pieceBytes := List.flatMap_assoc
  rw [quoted, Utf8.encode_cons, Utf8.encode_append, hbody]
  rfl

end Quoted

/-- A quoted literal shows one text, and nothing that follows it can be taken for a part of it. -/
theorem quoted_append_inj {as bs s t : Bytes} : quoted as ++ s = quoted bs ++ t ↔ as = bs ∧ s = t := by
  constructor
  · intro h
    simp only [Quoted.quoted_eq, List.cons_append, List.append_assoc, List.nil_append, List.cons.injEq, true_and] at h
    have hstop (r : Bytes) : True ∧ Stops Quoted.pieceBytes (0x22 :: r) := ⟨trivial, Quoted.stops_quote r⟩
    obtain ⟨hpieces, hrest⟩ := flatMap_append_inj (P := fun _ => True)
      (fun p hp q hq x y _ _ => Quoted.pieceBytes_append_inj hp hq) (fun _ _ => trivial) (hstop s) (hstop t) h
    exact ⟨Utf8.pieces_inj hpieces, (List.cons.inj hrest).2⟩
  · rintro ⟨rfl, rfl⟩
    rfl

end AuditShell
