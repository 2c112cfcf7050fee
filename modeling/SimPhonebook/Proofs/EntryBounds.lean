import SimPhonebook.Proofs.EntryAnswers

/-!
# Which answers to a read are accepted

An answer to a read is accepted exactly if everything it refers to lies inside its payload (`InBounds`): the table of the
entries, each entry, and both strings of each entry. What is read then is what stands there (`Lists`). The sums of offsets
and sizes are sums of natural numbers, so nothing wraps around.

Each reader is described by when it succeeds, from the word (`Reader.word_eq_ok_iff`) over the string
(`Reader.string_eq_ok_iff`) and the entry (`decodeEntry_eq_ok_iff`) to the whole answer (`decodeEntries_eq_ok_iff`).
-/

namespace SimPhonebook

/-! ## Results -/

section Results
variable {ε ε' α β : Type} {x : Except ε α}

theorem bind_eq_ok_iff {f : α → Except ε β} {b : β} : x.bind f = .ok b ↔ ∃ a, x = .ok a ∧ f a = .ok b := by
  cases x with
  | error e => simp [Except.bind]
  | ok a => simp [Except.bind]

theorem mapError_error (f : ε → ε') (e : ε) : (.error e : Except ε α).mapError f = .error (f e) := rfl

theorem mapError_eq_ok_iff {f : ε → ε'} {a : α} : x.mapError f = .ok a ↔ x = .ok a := by
  cases x with
  | error e => simp [mapError_error]
  | ok a => simp [Phonebook.mapError_ok]

theorem map_eq_ok_iff {f : α → β} {b : β} : x.map f = .ok b ↔ ∃ a, x = .ok a ∧ f a = b := by
  cases x with
  | error e => simp [Except.map]
  | ok a => simp [Except.map]

theorem exists_of_mapM_eq_error {f : α → Except ε β} {l : List α} {e : ε} (h : l.mapM f = .error e) :
    ∃ a ∈ l, f a = .error e := by
  induction l with
  | nil => cases h
  | cons a l ih =>
    rw [List.mapM_cons] at h
    cases ha : f a with
    | error e' =>
      rw [ha] at h
      cases h
      exact ⟨a, List.mem_cons_self, ha⟩
    | ok b =>
      cases hl : l.mapM f with
      | error e' =>
        rw [ha, hl] at h
        cases h
        obtain ⟨a', hmem, ha'⟩ := ih hl
        exact ⟨a', List.mem_cons_of_mem a hmem, ha'⟩
      | ok bs =>
        rw [ha, hl] at h
        cases h

theorem of_mapM_range'_eq_ok {f : Nat → Except ε β} {l : List β} {k n : Nat} (h : (List.range' k n).mapM f = .ok l) :
    l.length = n ∧ ∀ i b, l[i]? = some b → f (k + i) = .ok b := by
  induction n generalizing k l with
  | zero =>
    cases h
    exact ⟨rfl, fun i b hb => by cases hb⟩
  | succ n ih =>
    rw [List.range'_succ, List.mapM_cons] at h
    obtain ⟨b, hb, h⟩ := bind_eq_ok_iff.1 h
    obtain ⟨bs, hbs, h⟩ := bind_eq_ok_iff.1 h
    cases h
    obtain ⟨hlength, hrest⟩ := ih hbs
    refine ⟨by rw [List.length_cons, hlength], fun i b' hb' => ?_⟩
    cases i with
    | zero =>
      cases hb'
      exact hb
    | succ i =>
      rw [List.getElem?_cons_succ] at hb'
      rw [Nat.add_comm i 1, ← Nat.add_assoc]
      exact hrest i b' hb'

end Results

/-! ## Strings -/

theorem Utf16.exists_decode_iff {data : Octets} : (∃ t, decode data = .ok t) ↔ data.length % 2 = 0 := by
  unfold decode
  by_cases h : data.length % 2 = 0
  · simp [h]
  · simp [h]

namespace InfoBuffer

open Octets

/-- An offset and a size, as two words of a buffer give them. -/
structure Reference where
  offset : Nat
  size : Nat
deriving DecidableEq, Repr

def referenceAt (buffer : Octets) (pos : Nat) : Reference := ⟨(buffer.wordAt pos).toNat, (buffer.wordAt (pos + 4)).toNat⟩

namespace Reference

/-- The string a structure at `base` refers to is empty, or it is whole units inside the buffer. -/
def Fits (ref : Reference) (buffer : Octets) (base : Nat) : Prop :=
  ref.size = 0 ∨ ref.size % 2 = 0 ∧ base + ref.offset + ref.size ≤ buffer.length

instance (ref : Reference) (buffer : Octets) (base : Nat) : Decidable (ref.Fits buffer base) :=
  inferInstanceAs (Decidable (_ ∨ _ ∧ _))

/-- The text is the string a structure at `base` refers to. -/
def Reads (ref : Reference) (buffer : Octets) (base : Nat) (t : Text) : Prop :=
  ref.size = 0 ∧ t = Text.empty ∨
  ref.size ≠ 0 ∧ Utf16.decode ((buffer.drop (base + ref.offset)).take ref.size) = .ok t

variable {ref : Reference} {buffer : Octets} {base : Nat}

theorem length_slice (ref : Reference) (h : base + ref.offset + ref.size ≤ buffer.length) :
    ((buffer.drop (base + ref.offset)).take ref.size).length = ref.size := by
  rw [List.length_take, List.length_drop]
  omega

/-- A string that fits can be read. -/
theorem Fits.exists_reads (h : ref.Fits buffer base) : ∃ t, ref.Reads buffer base t := by
  by_cases hsize : ref.size = 0
  · exact ⟨Text.empty, Or.inl ⟨hsize, rfl⟩⟩
  · obtain ⟨heven, hinside⟩ := h.resolve_left hsize
    obtain ⟨t, ht⟩ := Utf16.exists_decode_iff.2 ((length_slice ref hinside).symm ▸ heven)
    exact ⟨t, Or.inr ⟨hsize, ht⟩⟩

end Reference

namespace Reader

variable {r : Reader}

theorem word_eq_ok_iff {k : Nat} {w : UInt32} :
    r.word k = .ok w ↔ r.base + k + 4 ≤ r.buffer.length ∧ r.buffer.wordAt (r.base + k) = w := by
  have hposition : ((r.base : Int) + k).toNat = r.base + k := by omega
  simp only [word]
  by_cases h : r.base + k + 4 ≤ r.buffer.length
  · rw [if_neg (by omega), hposition]
    simp [h]
  · rw [if_pos (by omega)]
    simp [h]

theorem slice_eq_ok_iff {offset size : UInt32} {data : Octets} :
    r.slice offset size = .ok data ↔ r.base + offset.toNat + size.toNat ≤ r.buffer.length ∧
      (r.buffer.drop (r.base + offset.toNat)).take size.toNat = data := by
  simp only [slice]
  by_cases h : r.base + offset.toNat + size.toNat ≤ r.buffer.length
  · rw [if_neg (by omega)]
    simp [h]
  · rw [if_pos (by omega)]
    simp [h]

/-- A string is read exactly if the reference to it fits, and then it is what stands there. -/
theorem string_eq_ok_iff {k : Nat} {t : Text} (hfit : r.base + k + 8 ≤ r.buffer.length) :
    r.string k = .ok t ↔
      (referenceAt r.buffer (r.base + k)).Fits r.buffer r.base ∧
      (referenceAt r.buffer (r.base + k)).Reads r.buffer r.base t := by
  have hstart : r.word k = .ok (r.buffer.wordAt (r.base + k)) := word_eq_ok_iff.2 ⟨by omega, rfl⟩
  have hsize : r.word ((k : Int) + 4) = .ok (r.buffer.wordAt (r.base + k + 4)) :=
    word_eq_ok_iff (k := k + 4).2 ⟨by omega, rfl⟩
  rw [string_of_words hstart hsize]
  generalize hoffset : r.buffer.wordAt (r.base + k) = offset
  generalize hlength : r.buffer.wordAt (r.base + k + 4) = size
  have hreference : referenceAt r.buffer (r.base + k) = ⟨offset.toNat, size.toNat⟩ := by
    rw [referenceAt, hoffset, hlength]
  rw [hreference]
  -- the offset of an empty string is not looked at
  by_cases hzero : size = 0
  · subst hzero
    simp [Reference.Fits, Reference.Reads, eq_comm]
  · have hne : size.toNat ≠ 0 := fun h => hzero (UInt32.toNat_inj.1 h)
    rw [if_neg hzero, bind_eq_ok_iff]
    simp only [slice_eq_ok_iff, mapError_eq_ok_iff, Reference.Fits, Reference.Reads, hne, false_or, false_and, ne_eq,
      not_false_eq_true, true_and]
    constructor
    · rintro ⟨data, ⟨hinside, rfl⟩, ht⟩
      have heven := Utf16.exists_decode_iff.1 ⟨t, ht⟩
      rw [Reference.length_slice ⟨offset.toNat, size.toNat⟩ hinside] at heven
      exact ⟨⟨heven, hinside⟩, ht⟩
    · rintro ⟨⟨-, hinside⟩, ht⟩
      exact ⟨_, ⟨hinside, rfl⟩, ht⟩

end Reader

end InfoBuffer

namespace Phonebook

open Octets InfoBuffer

/-! ## Entries -/

/-- The place of entry `i`, as the table gives it. -/
def entryPlace (payload : Octets) (i : Nat) : Reference := referenceAt payload (4 + 8 * i)

/-- Entry `i` lies inside the payload with both of its strings. -/
structure EntryFits (payload : Octets) (i : Nat) : Prop where
  long : entrySize ≤ (entryPlace payload i).size
  inside : (entryPlace payload i).offset + (entryPlace payload i).size ≤ payload.length
  number : (referenceAt payload ((entryPlace payload i).offset + 4)).Fits payload (entryPlace payload i).offset
  name : (referenceAt payload ((entryPlace payload i).offset + 12)).Fits payload (entryPlace payload i).offset

/-- Entry `i` is what stands at its place. -/
structure EntryReads (payload : Octets) (i : Nat) (e : Entry) : Prop where
  index : e.index = payload.wordAt (entryPlace payload i).offset
  number : (referenceAt payload ((entryPlace payload i).offset + 4)).Reads payload (entryPlace payload i).offset e.number
  name : (referenceAt payload ((entryPlace payload i).offset + 12)).Reads payload (entryPlace payload i).offset e.name

/-- Everything the payload refers to lies inside it. -/
structure InBounds (payload : Octets) : Prop where
  count : 4 ≤ payload.length
  table : 4 + 8 * (payload.wordAt 0).toNat ≤ payload.length
  entries : ∀ i < (payload.wordAt 0).toNat, EntryFits payload i

instance (payload : Octets) (i : Nat) : Decidable (EntryFits payload i) :=
  decidable_of_iff (_ ∧ _ ∧ _ ∧ _) ⟨fun ⟨h₁, h₂, h₃, h₄⟩ => ⟨h₁, h₂, h₃, h₄⟩, fun h => ⟨h.1, h.2, h.3, h.4⟩⟩

instance (payload : Octets) : Decidable (InBounds payload) :=
  decidable_of_iff (_ ∧ _ ∧ _) ⟨fun ⟨h₁, h₂, h₃⟩ => ⟨h₁, h₂, h₃⟩, fun h => ⟨h.1, h.2, h.3⟩⟩

/-- The entries are those the payload lists, in their order. -/
structure Lists (payload : Octets) (entries : List Entry) : Prop where
  count : entries.length = (payload.wordAt 0).toNat
  entry : ∀ i e, entries[i]? = some e → EntryReads payload i e

/-- The index of an entry that lies inside the payload can always be read. -/
theorem word_entryAt {payload : Octets} {base : Nat} (h : base + entrySize ≤ payload.length) :
    Reader.word ⟨payload, base⟩ 0 = .ok (payload.wordAt base) := by
  have hfit : base + 0 + 4 ≤ payload.length := by simp only [entrySize] at h; omega
  exact Reader.word_eq_ok_iff (k := 0).2 ⟨hfit, rfl⟩

theorem entryAt_eq_ok_iff {payload : Octets} {base : Nat} (h : base + entrySize ≤ payload.length) {i : Nat} {e : Entry} :
    entryAt ⟨payload, base⟩ i = .ok e ↔
      e.index = payload.wordAt base ∧
      ((referenceAt payload (base + 4)).Fits payload base ∧ (referenceAt payload (base + 4)).Reads payload base e.number) ∧
      (referenceAt payload (base + 12)).Fits payload base ∧ (referenceAt payload (base + 12)).Reads payload base e.name := by
  have hsize : entrySize = 20 := rfl
  have hnumber : base + 4 + 8 ≤ payload.length := by omega
  have hname : base + 12 + 8 ≤ payload.length := by omega
  rw [← Reader.string_eq_ok_iff (r := ⟨payload, base⟩) hnumber, ← Reader.string_eq_ok_iff (r := ⟨payload, base⟩) hname]
  obtain ⟨index, number, name⟩ := e
  simp only [entryAt, word_entryAt h, mapError_ok, bind, bind_eq_ok_iff, mapError_eq_ok_iff]
  constructor
  · rintro ⟨index', hindex, number', hnumber, name', hname, hentry⟩
    cases hindex
    cases hentry
    exact ⟨rfl, hnumber, hname⟩
  · rintro ⟨rfl, hnumber, hname⟩
    exact ⟨_, rfl, number, hnumber, name, hname, rfl⟩

theorem decodeEntry_eq (payload : Octets) (i : Nat) :
    decodeEntry payload i =
      if (entryPlace payload i).size < entrySize ∨
          (entryPlace payload i).offset + (entryPlace payload i).size > payload.length then
        .error (.entryExceeds i (payload.wordAt (4 + 8 * i)) (payload.wordAt (8 + 8 * i)))
      else entryAt ⟨payload, (entryPlace payload i).offset⟩ i := by
  rw [decodeEntry, entryPlace, referenceAt, Nat.add_right_comm 4 (8 * i) 4]

/-- **An entry is read exactly if it lies inside the payload with its strings**, and then it is what stands there. -/
theorem decodeEntry_eq_ok_iff {payload : Octets} {i : Nat} {e : Entry} :
    decodeEntry payload i = .ok e ↔ EntryFits payload i ∧ EntryReads payload i e := by
  rw [decodeEntry_eq]
  by_cases hfits : (entryPlace payload i).size < entrySize ∨
      (entryPlace payload i).offset + (entryPlace payload i).size > payload.length
  · rw [if_pos hfits]
    constructor
    · intro h
      cases h
    · rintro ⟨⟨hlong, hinside, -, -⟩, -⟩
      omega
  · rw [if_neg hfits, entryAt_eq_ok_iff (by omega)]
    constructor
    · rintro ⟨hindex, ⟨hnumber, hnumber'⟩, hname, hname'⟩
      exact ⟨⟨by omega, by omega, hnumber, hname⟩, hindex, hnumber', hname'⟩
    · rintro ⟨⟨-, -, hnumber, hname⟩, hindex, hnumber', hname'⟩
      exact ⟨hindex, ⟨hnumber, hnumber'⟩, hname, hname'⟩

theorem EntryFits.exists_reads {payload : Octets} {i : Nat} (h : EntryFits payload i) : ∃ e, EntryReads payload i e := by
  obtain ⟨number, hnumber⟩ := h.number.exists_reads
  obtain ⟨name, hname⟩ := h.name.exists_reads
  exact ⟨⟨_, number, name⟩, rfl, hnumber, hname⟩

theorem decodeEntry_ne_badIndex (payload : Octets) (i j : Nat) (e : ReadError) :
    decodeEntry payload i ≠ .error (.badIndex j e) := by
  rw [decodeEntry_eq]
  by_cases hfits : (entryPlace payload i).size < entrySize ∨
      (entryPlace payload i).offset + (entryPlace payload i).size > payload.length
  · simp [hfits]
  · have hindex : Reader.word ⟨payload, (entryPlace payload i).offset⟩ 0 = .ok _ := word_entryAt (by omega)
    simp only [if_neg hfits, entryAt, hindex, mapError_ok, bind, Except.bind]
    cases Reader.string ⟨payload, (entryPlace payload i).offset⟩ 4 with
    | error e => simp [mapError_error]
    | ok number =>
      cases Reader.string ⟨payload, (entryPlace payload i).offset⟩ 12 with
      | error e => simp [mapError_ok, mapError_error]
      | ok name => simp [mapError_ok, pure, Except.pure]

/-! ## The whole answer -/

theorem Status.isSuccess_iff {status : Status} : status.isSuccess = true ↔ status = .success := by
  obtain ⟨code⟩ := status
  simp [Status.isSuccess, Status.success]

/-- The message is a successful answer to a command for `target`, with this payload. -/
def Carries (target : Target) (m : Option Message) (payload : Octets) : Prop :=
  ∃ transaction, m = some ⟨transaction, .commandDone target .success payload⟩

theorem payloadOf_eq_ok_iff {target : Target} {m : Option Message} {payload : Octets} :
    payloadOf target m = .ok payload ↔ Carries target m payload := by
  constructor
  · intro h
    rcases m with _ | ⟨transaction, body⟩
    · cases h
    cases body with
    | commandDone got status p =>
      by_cases hgot : got = target
      · by_cases hstatus : status.isSuccess = true
        · have hok : payloadOf target (some ⟨transaction, .commandDone got status p⟩) = .ok p := by
            simp [payloadOf, hgot, hstatus]
          cases hok.symm.trans h
          rw [hgot, Status.isSuccess_iff.1 hstatus]
          exact ⟨transaction, rfl⟩
        · simp [payloadOf, hgot, hstatus] at h
      · simp [payloadOf, hgot] at h
    | _ => cases h
  · rintro ⟨transaction, rfl⟩
    simp [payloadOf, Status.isSuccess, Status.success]

theorem payloadOf_ne_badIndex (target : Target) (m : Option Message) (i : Nat) (e : ReadError) :
    payloadOf target m ≠ .error (.badIndex i e) := by
  rcases m with _ | ⟨transaction, body⟩
  · simp [payloadOf]
  · cases body with
    | commandDone got status p =>
      simp only [payloadOf]
      split
      · simp
      · split <;> simp
    | _ => simp [payloadOf]

/-- The checks in front of the entries, one after the other. -/
theorem decodeEntries_of_payload {m : Option Message} {payload : Octets} (h : payloadOf .phonebookRead m = .ok payload) :
    decodeEntries m =
      if payload.length < 4 then .error (.noCount (.noWord 0 payload.length))
      else if (payload.wordAt 0).toNat * 8 + 4 > payload.length then
        .error (.countExceeds (payload.wordAt 0) payload.length)
      else (List.range (payload.wordAt 0).toNat).mapM (decodeEntry payload) := by
  by_cases hcount : payload.length < 4
  · have hword : Reader.word ⟨payload, 0⟩ 0 = .error (.noWord 0 payload.length) := by
      simp only [Reader.word]
      rw [if_pos (by simp; omega)]
      simp
    rw [if_pos hcount]
    simp [decodeEntries, h, hword, bind, Except.bind, mapError_error]
  · have hword : Reader.word ⟨payload, 0⟩ 0 = .ok (payload.wordAt 0) :=
      Reader.word_eq_ok_iff (k := 0).2 ⟨by simp; omega, rfl⟩
    rw [if_neg hcount]
    simp only [decodeEntries, h, hword, mapError_ok, bind, Except.bind]
    by_cases hfit : (payload.wordAt 0).toNat * 8 + 4 > payload.length
    · simp only [if_pos hfit]
      rfl
    · simp only [if_neg hfit]

theorem mapM_decodeEntry_eq_ok_iff {payload : Octets} {entries : List Entry} :
    (List.range (payload.wordAt 0).toNat).mapM (decodeEntry payload) = .ok entries ↔
      (∀ i < (payload.wordAt 0).toNat, EntryFits payload i) ∧ Lists payload entries := by
  rw [List.range_eq_range']
  constructor
  · intro h
    obtain ⟨hlength, hentry⟩ := of_mapM_range'_eq_ok h
    have hboth (i : Nat) (e : Entry) (he : entries[i]? = some e) : EntryFits payload i ∧ EntryReads payload i e := by
      have hi := hentry i e he
      rw [Nat.zero_add] at hi
      exact decodeEntry_eq_ok_iff.1 hi
    refine ⟨fun i hi => ?_, hlength, fun i e he => (hboth i e he).2⟩
    exact (hboth i entries[i] (List.getElem?_eq_getElem (hlength ▸ hi))).1
  · rintro ⟨hfits, hlists⟩
    rw [← hlists.count]
    refine mapM_range'_eq_ok entries 0 fun i e he => ?_
    have hi : i < (payload.wordAt 0).toNat := hlists.count ▸ (List.getElem?_eq_some_iff.1 he).1
    rw [Nat.zero_add]
    exact decodeEntry_eq_ok_iff.2 ⟨hfits i hi, hlists.entry i e he⟩

theorem exists_mapM_decodeEntry {payload : Octets} (h : ∀ i < (payload.wordAt 0).toNat, EntryFits payload i) :
    ∃ entries, (List.range (payload.wordAt 0).toNat).mapM (decodeEntry payload) = .ok entries := by
  cases hread : (List.range (payload.wordAt 0).toNat).mapM (decodeEntry payload) with
  | ok entries => exact ⟨entries, rfl⟩
  | error e =>
    -- the error would be that of an entry, but every entry that fits can be read
    obtain ⟨i, hmem, hi⟩ := exists_of_mapM_eq_error hread
    obtain ⟨entry, hentry⟩ := (h i (List.mem_range.1 hmem)).exists_reads
    rw [decodeEntry_eq_ok_iff.2 ⟨h i (List.mem_range.1 hmem), hentry⟩] at hi
    cases hi

theorem InBounds.exists_lists {payload : Octets} (h : InBounds payload) : ∃ entries, Lists payload entries := by
  obtain ⟨entries, hread⟩ := exists_mapM_decodeEntry h.entries
  exact ⟨entries, (mapM_decodeEntry_eq_ok_iff.1 hread).2⟩

theorem decodeEntries_eq_ok_iff {m : Option Message} {entries : List Entry} :
    decodeEntries m = .ok entries ↔
      ∃ payload, Carries .phonebookRead m payload ∧ InBounds payload ∧ Lists payload entries := by
  constructor
  · intro h
    cases hpayload : payloadOf .phonebookRead m with
    | error e => simp [decodeEntries, hpayload, bind, Except.bind] at h
    | ok payload =>
      rw [decodeEntries_of_payload hpayload] at h
      split at h
      · cases h
      split at h
      · cases h
      obtain ⟨hfits, hlists⟩ := mapM_decodeEntry_eq_ok_iff.1 h
      exact ⟨payload, payloadOf_eq_ok_iff.1 hpayload, ⟨by omega, by omega, hfits⟩, hlists⟩
  · rintro ⟨payload, hcarries, ⟨hcount, htable, hfits⟩, hlists⟩
    rw [decodeEntries_of_payload (payloadOf_eq_ok_iff.2 hcarries), if_neg (by omega), if_neg (by omega)]
    exact mapM_decodeEntry_eq_ok_iff.2 ⟨hfits, hlists⟩

theorem exists_decodeEntries_iff {m : Option Message} :
    (∃ entries, decodeEntries m = .ok entries) ↔ ∃ payload, Carries .phonebookRead m payload ∧ InBounds payload := by
  constructor
  · rintro ⟨entries, h⟩
    obtain ⟨payload, hcarries, hbounds, -⟩ := decodeEntries_eq_ok_iff.1 h
    exact ⟨payload, hcarries, hbounds⟩
  · rintro ⟨payload, hcarries, hbounds⟩
    obtain ⟨entries, hlists⟩ := hbounds.exists_lists
    exact ⟨entries, decodeEntries_eq_ok_iff.2 ⟨payload, hcarries, hbounds, hlists⟩⟩

/-- An offset and a size of the table can always be read. -/
theorem word_entryPlace {payload : Octets} {i : Nat} (htable : 4 + 8 * (payload.wordAt 0).toNat ≤ payload.length)
    (hi : i < (payload.wordAt 0).toNat) :
    (Reader.word ⟨payload, 0⟩ ((4 + 8 * i : Nat) : Int)).map UInt32.toNat = .ok (entryPlace payload i).offset ∧
    (Reader.word ⟨payload, 0⟩ ((8 + 8 * i : Nat) : Int)).map UInt32.toNat = .ok (entryPlace payload i).size := by
  have hword (k : Nat) (hk : k + 4 ≤ payload.length) : Reader.word ⟨payload, 0⟩ (k : Int) = .ok (payload.wordAt k) := by
    have hfit : 0 + k + 4 ≤ payload.length := by omega
    exact Reader.word_eq_ok_iff.2 ⟨hfit, by rw [Nat.zero_add]⟩
  rw [hword _ (by omega), hword _ (by omega), entryPlace, referenceAt, Nat.add_right_comm 4 (8 * i) 4]
  exact ⟨rfl, rfl⟩

theorem decodeEntries_ne_badIndex (m : Option Message) (i : Nat) (e : ReadError) :
    decodeEntries m ≠ .error (.badIndex i e) := by
  intro h
  cases hpayload : payloadOf .phonebookRead m with
  | error e' =>
    simp only [decodeEntries, hpayload, bind, Except.bind] at h
    cases h
    exact payloadOf_ne_badIndex _ m i e hpayload
  | ok payload =>
    rw [decodeEntries_of_payload hpayload] at h
    split at h
    · cases h
    split at h
    · cases h
    obtain ⟨j, -, hj⟩ := exists_of_mapM_eq_error h
    exact decodeEntry_ne_badIndex payload j i e hj

/-- **A read is answered exactly by what lies inside its payload.** The answer is accepted if it carries a payload whose
table, entries and strings lie inside it, and then the entries are those that stand there; any other message is an error.
The offsets and sizes of the table can be read whenever the table fits, and the index of an entry is never what fails. -/
theorem decodeEntries_accepts_iff_inBounds (m : Option Message) :
    (∀ entries, decodeEntries m = .ok entries ↔
      ∃ payload, Carries .phonebookRead m payload ∧ InBounds payload ∧ Lists payload entries) ∧
    ((∃ entries, decodeEntries m = .ok entries) ↔ ∃ payload, Carries .phonebookRead m payload ∧ InBounds payload) ∧
    ((¬∃ payload, Carries .phonebookRead m payload ∧ InBounds payload) → ∃ error, decodeEntries m = .error error) ∧
    (∀ payload, Carries .phonebookRead m payload → 4 + 8 * (payload.wordAt 0).toNat ≤ payload.length →
      ∀ i < (payload.wordAt 0).toNat,
        (Reader.word ⟨payload, 0⟩ ((4 + 8 * i : Nat) : Int)).map UInt32.toNat = .ok (entryPlace payload i).offset ∧
        (Reader.word ⟨payload, 0⟩ ((8 + 8 * i : Nat) : Int)).map UInt32.toNat = .ok (entryPlace payload i).size) ∧
    ∀ entry error, decodeEntries m ≠ .error (.badIndex entry error) := by
  refine ⟨fun entries => decodeEntries_eq_ok_iff, exists_decodeEntries_iff, fun hnone => ?_,
    fun payload _ htable i hi => word_entryPlace htable hi, decodeEntries_ne_badIndex m⟩
  cases hread : decodeEntries m with
  | error e => exact ⟨e, rfl⟩
  | ok entries => exact absurd (exists_decodeEntries_iff.1 ⟨entries, hread⟩) hnone

/-- An answer with one entry at the given place. Its number is two units behind it, its name is empty, and the offset of
the name points far outside. -/
def looseEntry (offset size : UInt32) : Octets :=
  ofWord 1 ++ ofWord offset ++ ofWord size ++ ofWord 7 ++ ofWord 20 ++ ofWord 4 ++ ofWord 0xFFFFFFFF ++ ofWord 0 ++
    [0x31, 0, 0x32, 0]

/-- The offset of an empty string does not count, and a size that would wrap around is refused. -/
theorem looseEntry_read :
    decodeEntries (some ⟨1, .commandDone .phonebookRead .success (looseEntry 12 24)⟩) = .ok [⟨7, "12", ""⟩] ∧
    ∃ error, decodeEntries (some ⟨1, .commandDone .phonebookRead .success (looseEntry 12 0xFFFFFFF4)⟩) = .error error := by
  constructor
  · refine ((decodeEntries_accepts_iff_inBounds _).1 _).2 ⟨_, ⟨_, rfl⟩, by decide +kernel, by decide +kernel, fun i e he => ?_⟩
    cases i with
    | zero =>
      cases he
      exact ⟨by decide +kernel, Or.inr ⟨by decide +kernel, rfl⟩, Or.inl ⟨by decide +kernel, rfl⟩⟩
    | succ i => cases he
  · refine (decodeEntries_accepts_iff_inBounds _).2.2.1 ?_
    rintro ⟨payload, ⟨transaction, hm⟩, hbounds⟩
    cases hm
    revert hbounds
    decide +kernel

end Phonebook

end SimPhonebook
