import AuditShell.Proofs.Log
import AuditShell.Proofs.Quoted
/-!
# The head of a log

`Log.head_commits`: two accepted logs whose last digests agree have the same entries, or among the
texts that checking them digests two differ and have one digest. There is one way around this. An
entry whose time cannot be written has no text, and the digest of nothing stands for it: its digest
says nothing about the entry or about what comes before it. The theorem says where such entries must
stand, and `Log.head_ignores_insertion` shows two logs that differ by them.

The proof goes from the end of both logs to their start. Two last entries with one digest have one
text (`Entry.agree_of_digested`), which holds the number of the entry and the digest before it, so
the entries before them have one digest too.
-/

namespace AuditShell.Audit

open Json (Value)

/-! ## Digests in hexadecimal -/

theorem flatMap_hex_inj {as bs : Bytes}
    (h : (as.flatMap fun b => Quoted.hex 2 b.toNat) = bs.flatMap fun b => Quoted.hex 2 b.toNat) : as = bs := by
  induction as generalizing bs with
  | nil =>
    cases bs with
    | nil => rfl
    | cons b bs => cases h
  | cons a as ih =>
    cases bs with
    | nil => cases h
    | cons b bs =>
      rw [List.flatMap_cons, List.flatMap_cons] at h
      obtain ⟨hd, ht⟩ := List.append_inj h rfl
      rw [UInt8.toNat_inj.1 (Quoted.hex_inj a.toNat_lt b.toNat_lt hd), ih ht]

/-- Digests that are written alike are equal. -/
theorem Hash.hexadecimal_inj {digest : Bytes → Bytes} {x y : Bytes}
    (h : Hash.hexadecimal digest x = Hash.hexadecimal digest y) : digest x = digest y := by
  have hdecode := congrArg Utf8.decode h
  simp only [Hash.hexadecimal, Utf8.decode_encode] at hdecode
  exact flatMap_hex_inj hdecode

/-! ## What the text of an entry says -/

namespace Entry

/-- The members of an entry that its digest covers. -/
def body (e : Entry) (time : Bytes) : List (Bytes × Value) :=
  [(text "seq", .number (Bytes.ofNat e.seq.toNat)), (text "ts", .string time),
    (text "prev_hash", .string e.prevHash), (text "line", .string e.line),
    (text "commands", commandsValue e.commands), (text "outcome", .string e.outcome),
    (text "exit_code", .number (Bytes.ofInt e.exitCode))] ++
  (if e.error = [] then [] else [(text "error", .string e.error)]) ++
  [(text "duration_ms", .number e.duration.render), (text "cwd", .string e.cwd)]

theorem members_eq (e : Entry) (time : Bytes) : e.members time = e.body time ++ [(text "hash", .string e.hash)] := by
  simp [members, body]

theorem seq_of_body {e f : Entry} {time time' : Bytes} (h : e.body time = f.body time') : e.seq = f.seq := by
  have hseq : Bytes.ofNat e.seq.toNat = Bytes.ofNat f.seq.toNat := by
    simp only [body, List.cons_append, List.cons.injEq, Prod.mk.injEq, Value.number.injEq] at h
    exact h.1.2
  have hread := unsigned?_ofNat e.seq
  rw [hseq, unsigned?_ofNat f.seq] at hread
  exact (Option.some.inj hread).symm

theorem prevHash_of_body {e f : Entry} {time time' : Bytes} (h : e.body time = f.body time') :
    e.prevHash = f.prevHash := by
  simp only [body, List.cons_append, List.cons.injEq, Prod.mk.injEq, Value.string.injEq] at h
  exact h.2.2.1.2

/-- Entries whose texts without digest are equal have equal members, apart from the digest. -/
theorem body_of_encode {e f : Entry} (he : e.duration.Canonical) (hf : f.duration.Canonical) {t : Bytes}
    (het : ({ e with hash := [] } : Entry).encode = some t) (hft : ({ f with hash := [] } : Entry).encode = some t) :
    ∃ time time', e.time.render = some time ∧ f.time.render = some time' ∧
      e.repair.body time = f.repair.body time' := by
  obtain ⟨time, htime, hcompact⟩ := encode_eq_some.1 het
  obtain ⟨time', htime', hcompact'⟩ := encode_eq_some.1 hft
  refine ⟨time, time', htime, htime', ?_⟩
  have hparse := Json.parse_compact (fits_members (e := { e with hash := [] }) he time)
  have hparse' := Json.parse_compact (fits_members (e := { f with hash := [] }) hf time')
  rw [hcompact, Value.repair, repair_members _ (repair_render htime)] at hparse
  rw [hcompact', hparse, Value.repair, repair_members _ (repair_render htime'), members_eq, members_eq] at hparse'
  simp only [Option.some.injEq, Value.object.injEq] at hparse'
  exact (List.append_inj' hparse' rfl).1

/-- Two entries with a text of their own that are digested as one text have the same number, the same
digest before them and, under the same digest, the same text. -/
structure Agree (e f : Entry) : Prop where
  seq : e.seq = f.seq
  prevHash : Utf8.repair e.prevHash = Utf8.repair f.prevHash
  text : e.hash = f.hash → ∃ t, e.encode = some t ∧ f.encode = some t

/-- Entries that are digested as one text agree, unless neither has a text. -/
theorem agree_of_digested {e f : Entry} (he : e.duration.Canonical) (hf : f.duration.Canonical)
    (h : e.digested = f.digested) : Agree e f ∨ e.encode = none ∧ f.encode = none := by
  unfold digested at h
  cases het : ({ e with hash := [] } : Entry).encode with
  | none =>
    cases hft : ({ f with hash := [] } : Entry).encode with
    | none =>
      have hne := (encode_eq_none (e := { e with hash := [] })).1 het
      have hnf := (encode_eq_none (e := { f with hash := [] })).1 hft
      exact .inr ⟨encode_eq_none.2 hne, encode_eq_none.2 hnf⟩
    | some t =>
      rw [het, hft] at h
      exact absurd h.symm (encode_line (e := { f with hash := [] }) hf hft).2
  | some t =>
    cases hft : ({ f with hash := [] } : Entry).encode with
    | none =>
      rw [het, hft] at h
      exact absurd h (encode_line (e := { e with hash := [] }) he het).2
    | some t' =>
      rw [het, hft, Option.getD_some, Option.getD_some] at h
      subst h
      obtain ⟨time, time', htime, htime', hbody⟩ := body_of_encode he hf het hft
      refine .inl ⟨seq_of_body (e := e.repair) (f := f.repair) hbody,
        prevHash_of_body (e := e.repair) (f := f.repair) hbody, fun hhash => ?_⟩
      have hmembers : e.repair.members time = f.repair.members time' := by
        rw [members_eq, members_eq, hbody]
        exact congrArg (fun h => f.repair.body time' ++ [(AuditShell.text "hash", Value.string (Utf8.repair h))]) hhash
      refine ⟨(Value.object (e.repair.members time)).compact, ?_, ?_⟩
      · rw [← encode_repair]
        exact encode_eq_some.2 ⟨time, htime, rfl⟩
      · rw [← encode_repair, hmembers]
        exact encode_eq_some.2 ⟨time', htime', rfl⟩

end Entry

/-! ## Two logs with one head -/

/-- Two of the texts differ and have one digest. -/
def Collision (digest : Bytes → Bytes) (texts : List Bytes) : Prop :=
  ∃ x ∈ texts, ∃ y ∈ texts, x ≠ y ∧ digest x = digest y

/-- Entries that are equally many and have the same texts, one by one. -/
def SameTexts (es fs : List Entry) : Prop :=
  ∃ ts : List Bytes, es.map Entry.encode = ts.map some ∧ fs.map Entry.encode = ts.map some

/-- Somewhere in both lists stands an entry without a text, and what follows it has the same texts. -/
def Unsealed (es fs : List Entry) : Prop :=
  ∃ es₁ e es₂ fs₁ f fs₂, es = es₁ ++ e :: es₂ ∧ fs = fs₁ ++ f :: fs₂ ∧ e.encode = none ∧ f.encode = none ∧
    SameTexts es₂ fs₂

theorem SameTexts.concat {es fs : List Entry} {e f : Entry} {t : Bytes} (h : SameTexts es fs)
    (he : e.encode = some t) (hf : f.encode = some t) : SameTexts (es ++ [e]) (fs ++ [f]) := by
  obtain ⟨ts, hes, hfs⟩ := h
  exact ⟨ts ++ [t], by simp [hes, he], by simp [hfs, hf]⟩

theorem Unsealed.concat {es fs : List Entry} {e f : Entry} {t : Bytes} (h : Unsealed es fs)
    (he : e.encode = some t) (hf : f.encode = some t) : Unsealed (es ++ [e]) (fs ++ [f]) := by
  obtain ⟨es₁, x, es₂, fs₁, y, fs₂, rfl, rfl, hx, hy, hsame⟩ := h
  exact ⟨es₁, x, es₂ ++ [e], fs₁, y, fs₂ ++ [f], by simp, by simp, hx, hy, hsame.concat he hf⟩

theorem Collision.mono {digest : Bytes → Bytes} {ts us : List Bytes} (h : Collision digest ts) (hsub : ts ⊆ us) :
    Collision digest us := by
  obtain ⟨x, hx, y, hy, hne, heq⟩ := h
  exact ⟨x, hsub hx, y, hsub hy, hne, heq⟩

namespace Chain

/-- Entries that follow the start of a chain are none where they reach the number zero, unless they
are more than a number can count. -/
theorem Followed.eq_nil {hash : Hash} {es : List Entry} (h : (start hash).Followed hash es)
    (hlen : es.length < Word.count) (hseq : ((start hash).after es).seq = 0) : es = [] := by
  rw [h.seq_after] at hseq
  have hzero : es.length.toUInt64 = 0 := by simpa [start] using hseq
  have hmod : es.length % Word.count = 0 := congrArg UInt64.toNat hzero
  rw [Nat.mod_eq_of_lt hlen] at hmod
  exact List.eq_nil_of_length_eq_zero hmod

variable {digest : Bytes → Bytes}

/-- What two logs with the same last digest say about their last entries. -/
theorem last_cases {es fs : List Entry} {e f : Entry} (hce : e.duration.Canonical) (hcf : f.duration.Canonical)
    (hes : (start (.hexadecimal digest)).Followed (.hexadecimal digest) (es ++ [e]))
    (hfs : (start (.hexadecimal digest)).Followed (.hexadecimal digest) (fs ++ [f])) (h : e.hash = f.hash) :
    Collision digest [e.digested, f.digested] ∨ (e.encode = none ∧ f.encode = none) ∨
      (∃ t, e.encode = some t ∧ f.encode = some t) ∧
        ((start (.hexadecimal digest)).after es).seq = ((start (.hexadecimal digest)).after fs).seq ∧
        ((start (.hexadecimal digest)).after es).head = ((start (.hexadecimal digest)).after fs).head := by
  have hl := Hash.hexadecimal_legible digest
  obtain ⟨hes, hcheck⟩ := followed_concat.1 hes
  obtain ⟨hfs, hcheck'⟩ := followed_concat.1 hfs
  obtain ⟨hseq, hprev, hhash⟩ := check_eq_none.1 hcheck
  obtain ⟨hseq', hprev', hhash'⟩ := check_eq_none.1 hcheck'
  by_cases hd : e.digested = f.digested
  · rcases Entry.agree_of_digested hce hcf hd with hagree | hnone
    · refine .inr (.inr ⟨hagree.text h, ?_⟩)
      have hseqs : ((start (.hexadecimal digest)).after es).seq + 1 =
          ((start (.hexadecimal digest)).after fs).seq + 1 := by rw [← hseq, hagree.seq, hseq']
      have hheads := hagree.prevHash
      rw [hprev, hprev', hes.legible hl, hfs.legible hl] at hheads
      exact ⟨(UInt64.add_left_inj 1).1 hseqs, hheads⟩
    · exact .inr (.inl hnone)
  · refine .inl ⟨e.digested, by simp, f.digested, by simp, hd, Hash.hexadecimal_inj ?_⟩
    exact (hhash.symm.trans h).trans hhash'

/-- Two lists of entries that follow the start of the chain and have the same last digest. The
induction takes one entry off the end of both. -/
theorem commits {es fs : List Entry} (hce : ∀ e ∈ es, e.duration.Canonical) (hcf : ∀ f ∈ fs, f.duration.Canonical)
    (hes : (start (.hexadecimal digest)).Followed (.hexadecimal digest) es)
    (hfs : (start (.hexadecimal digest)).Followed (.hexadecimal digest) fs)
    (hle : es.length < Word.count) (hlf : fs.length < Word.count) {e f : Entry} (hlast : es.getLast? = some e)
    (hlast' : fs.getLast? = some f) (h : e.hash = f.hash) :
    SameTexts es fs ∨ Collision digest ((es ++ fs).map Entry.digested) ∨ Unsealed es fs := by
  induction es using List.reverseRecOn generalizing fs e f with
  | nil => cases hlast
  | append_singleton es e' ih =>
    obtain ⟨fs, rfl⟩ := List.getLast?_eq_some_iff.1 hlast'
    rw [List.getLast?_concat] at hlast
    cases hlast
    rw [List.length_append, List.length_singleton] at hle hlf
    rcases last_cases (hce _ (by simp)) (hcf _ (by simp)) hes hfs h with
      hcoll | ⟨hne, hnf⟩ | ⟨⟨t, hte, htf⟩, hseq, hhead⟩
    · exact .inr (.inl (hcoll.mono (by simp)))
    · exact .inr (.inr ⟨es, e', [], fs, f, [], rfl, rfl, hne, hnf, [], rfl, rfl⟩)
    · have hes' := (followed_concat.1 hes).1
      have hfs' := (followed_concat.1 hfs).1
      -- the numbers before the last entries agree, so either list ends where the other does
      rcases List.eq_nil_or_concat es with rfl | ⟨es₀, x, hx⟩
      · rw [hfs'.eq_nil (by omega) hseq.symm]
        exact .inl ⟨[t], by simp [hte], by simp [htf]⟩
      rcases List.eq_nil_or_concat fs with rfl | ⟨fs₀, y, hy⟩
      · rw [hes'.eq_nil (by omega) hseq]
        exact .inl ⟨[t], by simp [hte], by simp [htf]⟩
      rw [List.concat_eq_append] at hx hy
      have hxy : x.hash = y.hash := by
        rw [hx, hy, after_concat, after_concat] at hhead
        exact hhead
      rcases ih (fun z hz => hce z (List.mem_append_left _ hz)) (fun z hz => hcf z (List.mem_append_left _ hz)) hes' hfs'
        (by omega) (by omega) (by rw [hx, List.getLast?_concat]) (by rw [hy, List.getLast?_concat]) hxy with
        hsame | hcoll | hopen
      · exact .inl (hsame.concat hte htf)
      · have hsub : es ++ fs ⊆ (es ++ [e']) ++ (fs ++ [f]) := by
          intro z hz
          rcases List.mem_append.1 hz with hz | hz <;> simp [hz]
        exact .inr (.inl (hcoll.mono (List.map_subset _ hsub)))
      · exact .inr (.inr (hopen.concat hte htf))

end Chain

namespace Log

/-- The last digest of an accepted log commits to its entries. Of two accepted logs with the same last
digest, no longer than a number can count, the entries have the same texts one by one, or two texts
that were digested collide, or both hold an entry whose time cannot be written. -/
theorem head_commits {digest : Bytes → Bytes} {a b : Bytes} {c c' : Chain}
    (ha : verify (.hexadecimal digest) a = .ok c) (hb : verify (.hexadecimal digest) b = .ok c')
    (hla : (entries a).length < Word.count) (hlb : (entries b).length < Word.count) {e f : Entry}
    (he : (entries a).getLast? = some e) (hf : (entries b).getLast? = some f) (h : e.hash = f.hash) :
    SameTexts (entries a) (entries b) ∨ Collision digest ((entries a ++ entries b).map Entry.digested) ∨
      Unsealed (entries a) (entries b) := by
  have hcanonical : ∀ content, ∀ x ∈ entries content, x.duration.Canonical := by
    intro content x hx
    obtain ⟨l, -, hl⟩ := List.mem_filterMap.1 hx
    exact Entry.canonical_of_decode hl
  exact Chain.commits (hcanonical a) (hcanonical b) (verify_eq_ok.1 ha).2.1 (verify_eq_ok.1 hb).2.1 hla hlb he hf h

-- the members of an entry may stand in any order
theorem head_commits_reordered :
    let a := text "\x7b\"seq\":1,\"prev_hash\":\"63\",\"hash\":\"7b\"\x7d\n"
    let b := text " \x7b\"hash\":\"7b\", \"line\":\"\", \"prev_hash\":\"63\", \"seq\":1\x7d"
    let digest : Bytes → Bytes := List.take 1
    let e : Entry := { seq := 1, prevHash := text "63", hash := text "7b" }
    verify (.hexadecimal digest) a = .ok ⟨1, text "7b"⟩ ∧ verify (.hexadecimal digest) b = .ok ⟨1, text "7b"⟩ ∧
      entries a = [e] ∧ entries b = [e] ∧
      (SameTexts (entries a) (entries b) ∨ Collision digest ((entries a ++ entries b).map Entry.digested) ∨
        Unsealed (entries a) (entries b)) := by
  intro a b digest e
  have ha : verify (.hexadecimal digest) a = .ok ⟨1, text "7b"⟩ := by decide +kernel
  have hb : verify (.hexadecimal digest) b = .ok ⟨1, text "7b"⟩ := by decide +kernel
  have hea : entries a = [e] := by decide +kernel
  have heb : entries b = [e] := by decide +kernel
  refine ⟨ha, hb, hea, heb, head_commits ha hb ?_ ?_ (e := e) (f := e) ?_ ?_ rfl⟩
  · rw [hea]
    decide
  · rw [heb]
    decide
  · rw [hea]
    rfl
  · rw [heb]
    rfl

/-! ### Entries without a text -/

/-- A text that is read as a time, but that no time is written as: its offset is a day. -/
def dayOffset : Bytes := text "2024-01-01T00:00:00+24:00"

/-- The time that it is read as. -/
def dayOffsetTime : Instant := ⟨1703980800, 0, 86400⟩

theorem parse_dayOffset : Instant.parse (Utf8.decode dayOffset) = some dayOffsetTime := by decide +kernel

theorem render_dayOffsetTime : dayOffsetTime.render = none := by decide +kernel

/-- An entry at that time after a position, with the digest of nothing. -/
def unsealed (hash : Hash) (c : Chain) : Entry where
  seq := c.seq + 1
  time := dayOffsetTime
  prevHash := c.head
  hash := hash []

/-- The text of a line that says this entry. -/
def unsealedLine (hash : Hash) (c : Chain) : Bytes := (Value.object ((unsealed hash c).members dayOffset)).compact

section

variable {hash : Hash} {c : Chain}

theorem digested_unsealed : (unsealed hash c).digested = [] := by
  have hnone : ({ unsealed hash c with hash := [] } : Entry).encode = none :=
    Entry.encode_eq_none.2 render_dayOffsetTime
  rw [Entry.digested, hnone, Option.getD_none]

theorem check_unsealed : c.check hash (unsealed hash c) = none := by
  refine Chain.check_eq_none.2 ⟨rfl, rfl, ?_⟩
  rw [Chain.digest, digested_unsealed]
  rfl

theorem decode_unsealedLine (hl : hash.Legible) (hc : Utf8.repair c.head = c.head) :
    Entry.decode (unsealedLine hash c) = some (unsealed hash c) := by
  have hrepair : (unsealed hash c).repair = unsealed hash c := by
    simp [Entry.repair, unsealed, hc, hl [], show Utf8.repair [] = [] from rfl]
  have hfits := Entry.fits_members (e := unsealed hash c) (Double.canonical_zero false) dayOffset
  have htime : Utf8.repair dayOffset = dayOffset := Utf8.repair_text _
  rw [Entry.decode, unsealedLine, Json.parse_compact hfits, Value.repair, Entry.repair_members _ htime, hrepair]
  exact Entry.ofJson_members rfl (Double.canonical_zero false) parse_dayOffset

theorem unsealedLine_line : 0x0A ∉ unsealedLine hash c ∧ unsealedLine hash c ≠ [] :=
  Json.compact_line (Entry.fits_members (e := unsealed hash c) (Double.canonical_zero false) dayOffset)

/-- A line more at the end of an accepted log that says such an entry. -/
theorem append_unsealed {content : Bytes} (hl : hash.Legible) (hc : Utf8.repair c.head = c.head)
    (ht : Terminated content) (h : verify hash content = .ok c) :
    verify hash (content ++ (unsealedLine hash c ++ [0x0A])) = .ok (.advance (unsealed hash c)) ∧
      entries (content ++ (unsealedLine hash c ++ [0x0A])) = entries content ++ [unsealed hash c] := by
  have hdecode := decode_unsealedLine hl hc
  refine ⟨?_, entries_append_line ht unsealedLine_line hdecode⟩
  rw [verify, records_append_line ht unsealedLine_line]
  exact verifyFrom_concat h hdecode check_unsealed

/-- A log of one such entry. -/
def shortLog (hash : Hash) : Bytes := unsealedLine hash (.start hash) ++ [0x0A]

/-- The log with another such entry behind. -/
def longLog (hash : Hash) : Bytes :=
  shortLog hash ++ (unsealedLine hash (.advance (unsealed hash (.start hash))) ++ [0x0A])

theorem verify_shortLog (hl : hash.Legible) :
    verify hash (shortLog hash) = .ok (.advance (unsealed hash (.start hash))) ∧
      entries (shortLog hash) = [unsealed hash (.start hash)] := by
  have hempty : verify hash [] = .ok (.start hash) := rfl
  have h := append_unsealed hl (hl _) (.inl rfl) hempty
  rwa [List.nil_append, show entries [] = [] from rfl, List.nil_append] at h

theorem verify_longLog (hl : hash.Legible) :
    verify hash (longLog hash) = .ok (.advance (unsealed hash (.advance (unsealed hash (.start hash))))) ∧
      entries (longLog hash) =
        [unsealed hash (.start hash), unsealed hash (.advance (unsealed hash (.start hash)))] := by
  obtain ⟨hv, he⟩ := verify_shortLog hl
  have hterminated : Terminated (shortLog hash) := .inr ⟨_, rfl⟩
  obtain ⟨hv', he'⟩ := append_unsealed hl (hl []) hterminated hv
  rw [he] at he'
  exact ⟨hv', he'⟩

end

/-- Two accepted logs with the same last digest, one of which has an entry more. No two of the texts
that were digested differ. -/
theorem head_ignores_insertion :
    (∃ c, verify sha256 (shortLog sha256) = .ok c) ∧ (∃ c, verify sha256 (longLog sha256) = .ok c) ∧
      (∃ e f, (entries (shortLog sha256)).getLast? = some e ∧ (entries (longLog sha256)).getLast? = some f ∧
        e.hash = f.hash) ∧
      ¬ SameTexts (entries (shortLog sha256)) (entries (longLog sha256)) ∧
      ∀ digest, ¬ Collision digest
        ((entries (shortLog sha256) ++ entries (longLog sha256)).map Entry.digested) := by
  have hl : Hash.Legible sha256 := by
    obtain ⟨digest, h⟩ := sha256_hexadecimal
    rw [h]
    exact Hash.hexadecimal_legible digest
  obtain ⟨hshort, hentries⟩ := verify_shortLog hl
  obtain ⟨hlong, hentries'⟩ := verify_longLog hl
  rw [hentries, hentries']
  refine ⟨⟨_, hshort⟩, ⟨_, hlong⟩, ⟨_, _, rfl, rfl, rfl⟩, ?_, ?_⟩
  · rintro ⟨ts, ha, hb⟩
    have hla := congrArg List.length ha
    have hlb := congrArg List.length hb
    simp only [List.length_map, List.length_cons, List.length_nil] at hla hlb
    omega
  · rintro digest ⟨x, hx, y, hy, hne, -⟩
    simp only [List.cons_append, List.nil_append, List.map_cons, List.map_nil, digested_unsealed, List.mem_cons,
      List.not_mem_nil, or_false, or_self] at hx hy
    exact hne (hx.trans hy.symm)

end Log

end AuditShell.Audit
