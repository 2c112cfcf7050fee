import SimPhonebook.Proofs.EntryBounds

/-!
# What an entry depends on

The table of an answer gives each entry a structure: an offset and a size. The strings of the entry are found by offsets
from the start of the structure, and these may lead out of it: they are bounded by the payload, not by the structure. So the
structure alone does not determine the entry (`borrowedName_read`), an entry can show the name that another one stores.

What determines it is the structure together with the octets behind its string references (`entry_determined_by_reach`).
An entry whose strings lie inside its structure depends on nothing else.
-/

namespace SimPhonebook

namespace Octets

/-- The two hold the same octets from `low` on and before `high`. -/
def AgreeOn (a b : Octets) (low high : Nat) : Prop := ∀ k, low ≤ k → k < high → a[k]? = b[k]?

section
variable {a b : Octets} {low high : Nat}

theorem AgreeOn.slice (h : AgreeOn a b low high) {start size : Nat} (hlow : low ≤ start) (hhigh : start + size ≤ high) :
    (a.drop start).take size = (b.drop start).take size := by
  apply List.ext_getElem?
  intro k
  by_cases hk : k < size
  · rw [List.getElem?_take_of_lt hk, List.getElem?_take_of_lt hk, List.getElem?_drop, List.getElem?_drop]
    exact h (start + k) (by omega) (by omega)
  · rw [List.getElem?_take_eq_none (by omega), List.getElem?_take_eq_none (by omega)]

theorem headWord?_take (data : Octets) : headWord? (data.take 4) = headWord? data := by
  match data with
  | [] | [_] | [_, _] | [_, _, _] | _ :: _ :: _ :: _ :: _ => rfl

theorem AgreeOn.wordAt (h : AgreeOn a b low high) {pos : Nat} (hlow : low ≤ pos) (hhigh : pos + 4 ≤ high) :
    a.wordAt pos = b.wordAt pos := by
  rw [Octets.wordAt, Octets.wordAt, word?, word?, ← headWord?_take, h.slice hlow hhigh, headWord?_take]

end

end Octets

namespace InfoBuffer.Reference

variable {ref : Reference} {a b : Octets} {base : Nat} {t u : Text}

/-- The position is one of the octets of the string that a structure at `base` refers to. -/
def Covers (ref : Reference) (base k : Nat) : Prop := base + ref.offset ≤ k ∧ k < base + ref.offset + ref.size

theorem Fits.lt_length (h : ref.Fits a base) {k : Nat} (hk : ref.Covers base k) : k < a.length := by
  have := hk.1
  have := hk.2
  rcases h with hempty | ⟨-, hinside⟩
  · omega
  · omega

/-- A reference gives the same string in two buffers that agree on the octets it covers. -/
theorem Reads.eq (ha : ref.Reads a base t) (hb : ref.Reads b base u) (h : ∀ k, ref.Covers base k → a[k]? = b[k]?) :
    t = u := by
  have hslice : (a.drop (base + ref.offset)).take ref.size = (b.drop (base + ref.offset)).take ref.size :=
    Octets.AgreeOn.slice (fun k hlow hhigh => h k ⟨hlow, hhigh⟩) (Nat.le_refl _) (Nat.le_refl _)
  rcases ha with ⟨hempty, rfl⟩ | ⟨hsize, ht⟩
  · rcases hb with ⟨-, rfl⟩ | ⟨hsize, -⟩
    · rfl
    · exact absurd hempty hsize
  · rcases hb with ⟨hempty, -⟩ | ⟨-, hu⟩
    · exact absurd hempty hsize
    · rw [hslice, hu] at ht
      exact (Except.ok.inj ht).symm

end InfoBuffer.Reference

namespace Phonebook

open Octets InfoBuffer

/-- The position lies inside the structure of entry `i`. -/
def InStructure (payload : Octets) (i k : Nat) : Prop :=
  (entryPlace payload i).offset ≤ k ∧ k < (entryPlace payload i).offset + (entryPlace payload i).size

/-- The position is one of the octets of the two strings of entry `i`. -/
def Reaches (payload : Octets) (i k : Nat) : Prop :=
  (referenceAt payload ((entryPlace payload i).offset + 4)).Covers (entryPlace payload i).offset k ∨
  (referenceAt payload ((entryPlace payload i).offset + 12)).Covers (entryPlace payload i).offset k

/-- Entry `i` has the same structure in both payloads: the place is the same, and so are the octets there. -/
structure SameStructure (p q : Octets) (i : Nat) : Prop where
  place : entryPlace p i = entryPlace q i
  octets : ∀ k, InStructure p i k → p[k]? = q[k]?

/-! ## A name from the next entry -/

/-- Two entries. The first is only the fixed part of a structure, and its name refers to the single unit that the second,
of index `index`, stores as its number. -/
def borrowedName (index : UInt32) (unit : UInt8) : Octets :=
  ofWord 2 ++ ofWord 20 ++ ofWord 20 ++ ofWord 40 ++ ofWord 24 ++
  (ofWord 1 ++ ofWord 0 ++ ofWord 0 ++ ofWord 40 ++ ofWord 2) ++
  (ofWord index ++ ofWord 20 ++ ofWord 2 ++ ofWord 0 ++ ofWord 0 ++ [unit, 0, 0, 0])

def answerWith (payload : Octets) : Option Message := some ⟨1, .commandDone .phonebookRead .success payload⟩

theorem carries_answerWith (payload : Octets) : Carries .phonebookRead (answerWith payload) payload := ⟨1, rfl⟩

theorem entryPlace_borrowedName (index : UInt32) (unit : UInt8) : entryPlace (borrowedName index unit) 0 = ⟨20, 20⟩ := rfl

/-- The first structure is always the same. -/
theorem sameStructure_borrowedName (index index' : UInt32) (unit unit' : UInt8) :
    SameStructure (borrowedName index unit) (borrowedName index' unit') 0 := by
  refine ⟨by rw [entryPlace_borrowedName, entryPlace_borrowedName], fun k hk => ?_⟩
  rw [InStructure, entryPlace_borrowedName] at hk
  have hfirst (index : UInt32) (unit : UInt8) : (borrowedName index unit)[k]? = ((borrowedName 0 0).take 40)[k]? := by
    rw [← List.getElem?_take_of_lt hk.2]
    rfl
  rw [hfirst, hfirst]

/-- The structure of an entry alone does not determine it: here another number of the second entry is another name of the
first. -/
theorem borrowedName_read :
    decodeEntries (answerWith (borrowedName 2 0x41)) = .ok [⟨1, "", "A"⟩, ⟨2, "A", ""⟩] ∧
    decodeEntries (answerWith (borrowedName 2 0x42)) = .ok [⟨1, "", "B"⟩, ⟨2, "B", ""⟩] ∧
    SameStructure (borrowedName 2 0x41) (borrowedName 2 0x42) 0 ∧ (⟨1, "", "A"⟩ : Entry) ≠ ⟨1, "", "B"⟩ :=
  ⟨rfl, rfl, sameStructure_borrowedName _ _ _ _, by decide +kernel⟩

/-! ## Structure and strings -/

section
variable {p q : Octets} {i : Nat}

/-- The words of a structure are the same. -/
theorem SameStructure.wordAt (h : SameStructure p q i) (hlong : entrySize ≤ (entryPlace p i).size) {pos : Nat}
    (hpos : pos + 4 ≤ entrySize) :
    p.wordAt ((entryPlace p i).offset + pos) = q.wordAt ((entryPlace p i).offset + pos) := by
  have hagree : AgreeOn p q (entryPlace p i).offset ((entryPlace p i).offset + (entryPlace p i).size) :=
    fun k hlow hhigh => h.octets k ⟨hlow, hhigh⟩
  exact hagree.wordAt (by omega) (by omega)

theorem SameStructure.referenceAt (h : SameStructure p q i) (hlong : entrySize ≤ (entryPlace p i).size) {pos : Nat}
    (hpos : pos + 8 ≤ entrySize) :
    referenceAt q ((entryPlace q i).offset + pos) = referenceAt p ((entryPlace p i).offset + pos) := by
  rw [InfoBuffer.referenceAt, InfoBuffer.referenceAt, ← h.place, h.wordAt hlong (by omega), Nat.add_assoc,
    h.wordAt hlong (by omega)]

/-- An entry is determined by its structure and the octets of its strings. -/
theorem SameStructure.entry_eq (h : SameStructure p q i) {d e : Entry} (hfits : EntryFits p i) (hd : EntryReads p i d)
    (he : EntryReads q i e) (hreach : ∀ k, Reaches p i k → p[k]? = q[k]?) : d = e := by
  have hnumber := he.number
  have hname := he.name
  have hindex := he.index
  rw [h.referenceAt hfits.long (by decide), ← h.place] at hnumber hname
  rw [← h.place, ← Nat.add_zero (entryPlace p i).offset, ← h.wordAt hfits.long (by decide), Nat.add_zero,
    ← hd.index] at hindex
  have hnumber := hd.number.eq hnumber fun k hk => hreach k (Or.inl hk)
  have hname := hd.name.eq hname fun k hk => hreach k (Or.inr hk)
  cases d
  cases e
  simp_all

/-- What an accepted answer says about its entries. -/
theorem reads_of_decodeEntries {m : Option Message} {entries : List Entry} {e : Entry} (hm : Carries .phonebookRead m p)
    (h : decodeEntries m = .ok entries) (he : entries[i]? = some e) : EntryFits p i ∧ EntryReads p i e := by
  obtain ⟨payload, hcarries, hbounds, hlists⟩ := decodeEntries_eq_ok_iff.1 h
  have hpayload : payload = p := by
    obtain ⟨_, rfl⟩ := hm
    obtain ⟨_, hsame⟩ := hcarries
    cases hsame
    rfl
  subst hpayload
  have hi : i < entries.length := (List.getElem?_eq_some_iff.1 he).1
  exact ⟨hbounds.entries i (hlists.count ▸ hi), hlists.entry i e he⟩

/-- **An entry depends on its structure and on where its strings lie.** In two accepted answers that give entry `i` the same
structure the entry is the same, provided that the octets are the same which its strings take from outside the structure.
If the strings lie inside the structure, there are none. And whatever the strings take lies inside the payload. -/
theorem entry_determined_by_reach {m n : Option Message} {ds es : List Entry} {d e : Entry}
    (hm : Carries .phonebookRead m p) (hn : Carries .phonebookRead n q) (hds : decodeEntries m = .ok ds)
    (hes : decodeEntries n = .ok es) (hd : ds[i]? = some d) (he : es[i]? = some e) (h : SameStructure p q i) :
    ((∀ k, Reaches p i k → ¬InStructure p i k → p[k]? = q[k]?) → d = e) ∧
    ((∀ k, Reaches p i k → InStructure p i k) → d = e) ∧
    ∀ k, Reaches p i k → k < p.length := by
  obtain ⟨hfits, hd⟩ := reads_of_decodeEntries hm hds hd
  obtain ⟨-, he⟩ := reads_of_decodeEntries hn hes he
  have hsame (houtside : ∀ k, Reaches p i k → ¬InStructure p i k → p[k]? = q[k]?) : d = e := by
    refine h.entry_eq hfits hd he fun k hk => ?_
    by_cases hinside : InStructure p i k
    · exact h.octets k hinside
    · exact houtside k hk hinside
  refine ⟨hsame, fun hinside => hsame fun k hk hnot => absurd (hinside k hk) hnot, fun k hk => ?_⟩
  rcases hk with hk | hk
  · exact hfits.number.lt_length hk
  · exact hfits.name.lt_length hk

end

/-- The first entry stays the same as long as the second keeps its number, which is found outside the first structure. -/
theorem borrowedName_determined :
    SameStructure (borrowedName 2 0x41) (borrowedName 3 0x41) 0 ∧ Reaches (borrowedName 2 0x41) 0 60 ∧
    ¬InStructure (borrowedName 2 0x41) 0 60 ∧ 60 < (borrowedName 2 0x41).length ∧
    (decodeEntries (answerWith (borrowedName 2 0x41))).map List.head? =
      (decodeEntries (answerWith (borrowedName 3 0x41))).map List.head? := by
  have hds : decodeEntries (answerWith (borrowedName 2 0x41)) = .ok [⟨1, "", "A"⟩, ⟨2, "A", ""⟩] := rfl
  have hes : decodeEntries (answerWith (borrowedName 3 0x41)) = .ok [⟨1, "", "A"⟩, ⟨3, "A", ""⟩] := rfl
  have hsame := sameStructure_borrowedName 2 3 0x41 0x41
  have hreach : Reaches (borrowedName 2 0x41) 0 60 := Or.inr ⟨by decide +kernel, by decide +kernel⟩
  obtain ⟨heq, -, hinside⟩ :=
    entry_determined_by_reach (carries_answerWith _) (carries_answerWith _) hds hes rfl rfl hsame
  have hfirst := heq (by
    intro k hk _
    rcases hk with ⟨hlow, hhigh⟩ | ⟨hlow, hhigh⟩
    · -- the number is empty
      exact absurd (Nat.lt_of_le_of_lt hlow hhigh) (by decide +kernel)
    · have hlow : 60 ≤ k := hlow
      have hhigh : k < 62 := hhigh
      have hk : k = 60 ∨ k = 61 := by omega
      rcases hk with rfl | rfl <;> rfl)
  refine ⟨hsame, hreach, fun h => absurd h.2 (by decide +kernel), hinside 60 hreach, ?_⟩
  rw [hds, hes]
  exact congrArg (fun e : Entry => (.ok (some e) : Except ResponseError (Option Entry))) hfirst

end Phonebook

end SimPhonebook
