import SimPhonebook.Proofs.WireFormat

/-!
# Which octets are a message

Reading takes octets for a message exactly if they are the octets of a canonical message, followed by any others, with the
length set to what there is and any number for the fragment (`Message.decode_eq_ok_iff_encodeWithSlack`). The part proved
here is that nothing else is accepted: what was read determines the octets, field by field in the order in which they
stand, up to those two liberties.
-/

namespace SimPhonebook

open Octets

/-! ## What the fields say about the octets -/

theorem drop_of_payloadAt {data p : Octets} {pos : Nat} (hpos : pos + 4 ≤ data.length)
    (h : payloadAt data pos = .ok p) : ∃ slack, data.drop pos = sizedPayload p ++ slack := by
  simp only [payloadAt] at h
  split at h
  · cases h
  rename_i hfit
  cases h
  have hlen : ((data.drop (pos + 4)).take (data.wordAt pos).toNat).length = (data.wordAt pos).toNat := by
    rw [List.length_take, List.length_drop]
    omega
  refine ⟨(data.drop (pos + 4)).drop (data.wordAt pos).toNat, ?_⟩
  rw [sizedPayload, hlen, UInt32.ofNat_toNat, List.append_assoc, List.take_append_drop]
  exact drop_eq_ofWord_append _ hpos

theorem drop_eq_targetOctets_append {data : Octets} (h : 40 ≤ data.length) :
    data.drop 20 = (Target.ofOctets data).octets ++ data.drop 40 := by
  have hlen : ((data.drop 20).take 16).length = 16 := by
    rw [List.length_take, List.length_drop]
    omega
  have hservice : (Target.ofOctets data).service.octets = (data.drop 20).take 16 := by
    rw [Target.ofOctets, ServiceId.ofOctets?, dif_pos hlen]
    rfl
  have hcommand : data.drop 36 = ofWord (Target.ofOctets data).command ++ data.drop 40 := drop_eq_ofWord_append 36 h
  rw [Target.octets, hservice, List.append_assoc, ← hcommand]
  exact (List.take_append_drop 16 _).symm.trans (by rw [List.drop_drop])

/-- The part of the octets that messages with a fragment header have in common. -/
theorem drop_eq_fragmentOctets_append {data : Octets} (h : 40 ≤ data.length) :
    data.drop 12 = fragmentOctets (data.wordAt 12) (data.wordAt 16) ++
      ((Target.ofOctets data).octets ++ data.drop 40) := by
  rw [← drop_eq_targetOctets_append h, fragmentOctets, List.append_assoc,
    drop_eq_ofWord_append 12 (by omega), drop_eq_ofWord_append 16 (by omega)]

theorem exists_of_map_eq_ok {ε α β : Type} {x : Except ε α} {f : α → β} {b : β} (h : x.map f = .ok b) :
    ∃ a, x = .ok a ∧ f a = b := by
  cases x with
  | error e => cases h
  | ok a => exact ⟨a, rfl, Except.ok.inj h⟩

/-- **A body determines the octets behind the header**, but for the number of the fragment and what follows it. -/
theorem Body.drop_of_decode {type : MessageType} {data : Octets} {b : Body} (h : Body.decode type data = .ok b) :
    type.isKnown = true ∧ b.type = type ∧ type.fixedSize ≤ data.length ∧
      ∃ slack, data.drop 12 = b.octetsAs (data.wordAt 16) ++ slack := by
  unfold Body.decode at h
  split at h
  · cases h
  rename_i hknown
  split at h
  · cases h
  rename_i hlen
  split at h
  · cases h
  rename_i hwhole
  have hknown : type.isKnown = true := by simpa using hknown
  have hlen : type.fixedSize ≤ data.length := Nat.not_lt.1 hlen
  have hone : type.isFragmented = true → data.wordAt 12 = 1 := by simpa using hwhole
  have hword : 16 ≤ data.length → data.drop 12 = ofWord (data.wordAt 12) ++ data.drop 16 :=
    fun h16 => drop_eq_ofWord_append 12 (by omega)
  cases type with
  | openRequest => cases h; exact ⟨rfl, rfl, hlen, _, hword hlen⟩
  | closeRequest => cases h; exact ⟨rfl, rfl, hlen, _, rfl⟩
  | openDone => cases h; exact ⟨rfl, rfl, hlen, _, hword hlen⟩
  | closeDone => cases h; exact ⟨rfl, rfl, hlen, _, hword hlen⟩
  | functionError => cases h; exact ⟨rfl, rfl, hlen, _, hword hlen⟩
  | hostError => cases h; exact ⟨rfl, rfl, hlen, _, hword hlen⟩
  | command =>
    simp only [MessageType.fixedSize] at hlen
    obtain ⟨p, hp, rfl⟩ := exists_of_map_eq_ok h
    obtain ⟨slack, hslack⟩ := drop_of_payloadAt (by omega) hp
    refine ⟨rfl, rfl, hlen, slack, ?_⟩
    rw [drop_eq_fragmentOctets_append (by omega), hone rfl, drop_eq_ofWord_append 40 (by omega), hslack]
    simp [octetsAs]
  | commandDone =>
    simp only [MessageType.fixedSize] at hlen
    obtain ⟨p, hp, rfl⟩ := exists_of_map_eq_ok h
    obtain ⟨slack, hslack⟩ := drop_of_payloadAt (by omega) hp
    refine ⟨rfl, rfl, hlen, slack, ?_⟩
    rw [drop_eq_fragmentOctets_append (by omega), hone rfl, drop_eq_ofWord_append 40 (by omega), hslack]
    simp [octetsAs]
  | indication =>
    simp only [MessageType.fixedSize] at hlen
    obtain ⟨p, hp, rfl⟩ := exists_of_map_eq_ok h
    obtain ⟨slack, hslack⟩ := drop_of_payloadAt (by omega) hp
    refine ⟨rfl, rfl, hlen, slack, ?_⟩
    rw [drop_eq_fragmentOctets_append (by omega), hone rfl, hslack]
    simp [octetsAs]
  | other code => cases hknown

/-! ## Messages -/

namespace Message

variable {data : Octets} {m : Message}

theorem exists_encodeWithSlack_of_decode (h : decode data = .ok m) :
    ∃ number slack, data = m.encodeWithSlack number slack := by
  obtain ⟨hheader, hlength, htransaction, hbody⟩ := decode_eq_ok_iff.1 h
  obtain ⟨-, htype, -, slack, hdrop⟩ := Body.drop_of_decode hbody
  have hsize : data.length = m.encode.length + slack.length := by
    have := congrArg List.length hdrop
    have hfixed := m.body.length_octets
    simp only [List.length_drop, List.length_append, Body.length_octetsAs, headerSize] at this hheader
    rw [length_encode, type]
    omega
  refine ⟨data.wordAt 16, slack, ?_⟩
  rw [encodeWithSlack_eq, ← hdrop, headerOctets, ← hsize, type, htype, MessageType.code_ofCode, htransaction, ← hlength,
    UInt32.ofNat_toNat, List.append_assoc, List.append_assoc]
  simp only [headerSize] at hheader
  calc data = ofWord (data.wordAt 0) ++ data.drop 4 := drop_eq_ofWord_append 0 (by omega)
    _ = _ := by
      rw [drop_eq_ofWord_append 4 (by omega), drop_eq_ofWord_append 8 (by omega)]

theorem canonical_of_decode (h : decode data = .ok m) : m.Canonical := by
  obtain ⟨-, hlength, -, hbody⟩ := decode_eq_ok_iff.1 h
  obtain ⟨hknown, htype, -, -⟩ := Body.drop_of_decode hbody
  obtain ⟨number, slack, hdata⟩ := exists_encodeWithSlack_of_decode h
  have hsize := m.length_encodeWithSlack number slack
  have hlt := (data.wordAt 4).toNat_lt
  rw [← hdata] at hsize
  exact ⟨by rw [type, htype]; exact hknown, by omega⟩

/-- The octets of a message are all there is exactly if nothing follows it and its fragment has the number zero. -/
theorem encode_eq_encodeWithSlack_iff (m : Message) (number : UInt32) (slack : Octets) :
    m.encode = m.encodeWithSlack number slack ↔ slack = [] ∧ (m.type.isFragmented = true → number = 0) := by
  constructor
  · intro h
    have hlen := congrArg List.length h
    rw [length_encode, length_encodeWithSlack] at hlen
    have hnil : slack = [] := List.eq_nil_of_length_eq_zero (by omega)
    subst hnil
    refine ⟨rfl, fun hfragmented => ?_⟩
    rw [← encodeWithSlack_zero_nil, encodeWithSlack_eq, encodeWithSlack_eq] at h
    have h := List.append_cancel_right (List.append_cancel_left h)
    obtain ⟨t, b⟩ := m
    have hfour : ∀ rest : Octets, fragmentOctets 1 0 ++ rest = fragmentOctets 1 number ++ rest → number = 0 := by
      intro rest h
      have hnumber := congrArg (wordAt · 4) h
      have h₀ : ∀ n, wordAt (fragmentOctets 1 n ++ rest) 4 = n := fun n => joinWord_ofWord n
      simpa [h₀] using hnumber.symm
    cases b with
    | command t k p => exact hfour _ h
    | commandDone t s p => exact hfour _ h
    | indication t p => exact hfour _ h
    | _ => cases hfragmented
  · rintro ⟨rfl, hnumber⟩
    rw [← encodeWithSlack_zero_nil, encodeWithSlack, encodeWithSlack]
    split
    · rw [hnumber ‹_›]
    · rfl

/-- **Reading accepts exactly the octets of canonical messages**, up to octets behind the message and the number of the
fragment. What was read, written again, is read as the same message; it is what was there exactly if the two liberties
were not taken. -/
theorem decode_eq_ok_iff_encodeWithSlack (data : Octets) (m : Message) :
    (decode data = .ok m ↔
      m.Canonical ∧ data.length < 2 ^ 32 ∧ ∃ number slack, data = m.encodeWithSlack number slack) ∧
    (m.Canonical → decode m.encode = .ok m) ∧
    (decode data = .ok m → decode m.encode = .ok m ∧ ∀ number slack, data = m.encodeWithSlack number slack →
      (m.encode = data ↔ slack = [] ∧ (m.type.isFragmented = true → number = 0))) := by
  refine ⟨⟨fun h => ?_, ?_⟩, decode_encode, fun h => ⟨decode_encode (canonical_of_decode h), ?_⟩⟩
  · have hlt := (data.wordAt 4).toNat_lt
    rw [(decode_eq_ok_iff.1 h).2.1] at hlt
    exact ⟨canonical_of_decode h, hlt, exists_encodeWithSlack_of_decode h⟩
  · rintro ⟨hcanonical, hshort, number, slack, rfl⟩
    exact decode_encodeWithSlack hcanonical number hshort
  · rintro number slack rfl
    exact m.encode_eq_encodeWithSlack_iff number slack

/-- An indication with one octet of payload. -/
def shortIndication : Message := ⟨0, .indication .phonebookRead [0xAA]⟩

/-- It is read from octets that number its fragment 7 and go on after it, and from its own octets, which are others. -/
theorem shortIndication_accepted :
    shortIndication.Canonical ∧
    decode (shortIndication.encodeWithSlack 7 [1, 2]) = .ok shortIndication ∧
    decode shortIndication.encode = .ok shortIndication ∧
    shortIndication.encode ≠ shortIndication.encodeWithSlack 7 [1, 2] := by
  have hcanonical : shortIndication.Canonical := ⟨rfl, by decide⟩
  obtain ⟨haccepts, -, hagain⟩ :=
    decode_eq_ok_iff_encodeWithSlack (shortIndication.encodeWithSlack 7 [1, 2]) shortIndication
  have hdecode := haccepts.2 ⟨hcanonical, by decide, 7, [1, 2], rfl⟩
  obtain ⟨hencode, hexact⟩ := hagain hdecode
  exact ⟨hcanonical, hdecode, hencode, fun h => absurd ((hexact 7 [1, 2] rfl).1 h).1 (by decide)⟩

end Message

end SimPhonebook
