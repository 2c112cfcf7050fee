import SimPhonebook.Message.Codec
import SimPhonebook.Proofs.Words

/-!
# Reading back what was written

A message is `Canonical` when the protocol knows its type and its length fits the length field. Such a message is read back
from its octets exactly (`Message.decode_encode`), and just as well when more octets follow it and its fragment has another
number (`Message.decode_encodeWithSlack`). The body alone is read back behind any header and in front of anything
(`Body.decode_octetsAs`), since its fields stand at fixed positions and the payload comes with its length.
-/

namespace SimPhonebook

open Octets

/-- The payload of a body; nothing where the type has none. -/
def Body.payload : Body → Octets
  | .command _ _ p | .commandDone _ _ p | .indication _ p => p
  | _ => []

/-- A message of a type that the protocol knows, short enough for the length field. -/
structure Message.Canonical (m : Message) : Prop where
  known : m.type.isKnown = true
  short : m.type.fixedSize + m.body.payload.length < 2 ^ 32

/-! ## Lengths -/

@[simp] theorem length_headerOctets (type : MessageType) (length : Nat) (transaction : UInt32) :
    (headerOctets type length transaction).length = 12 := rfl

@[simp] theorem length_fragmentOctets (total number : UInt32) : (fragmentOctets total number).length = 8 := rfl

@[simp] theorem Target.length_octets (t : Target) : t.octets.length = 20 := by
  rw [Target.octets, List.length_append, t.service.length_octets, length_ofWord]

@[simp] theorem length_sizedPayload (p : Octets) : (sizedPayload p).length = 4 + p.length := by
  rw [sizedPayload, List.length_append, length_ofWord]

theorem Body.length_octets (b : Body) : 12 + b.octets.length = b.type.fixedSize + b.payload.length := by
  cases b <;> simp [Body.octets, Body.type, Body.payload, MessageType.fixedSize] <;> omega

theorem Message.length_encode (m : Message) : m.encode.length = m.type.fixedSize + m.body.payload.length := by
  rw [Message.encode, List.length_append, length_headerOctets, m.body.length_octets, Message.type]

theorem MessageType.fixedSize_ge (t : MessageType) : 12 ≤ t.fixedSize := by
  cases t <;> simp [MessageType.fixedSize]

theorem MessageType.fixedSize_ge_of_isFragmented {t : MessageType} (h : t.isFragmented = true) : 44 ≤ t.fixedSize := by
  cases t <;> simp_all [MessageType.fixedSize, MessageType.isFragmented]

theorem MessageType.isKnown_of_isFragmented {t : MessageType} (h : t.isFragmented = true) : t.isKnown = true := by
  cases t <;> simp_all [MessageType.isKnown, MessageType.isFragmented]

theorem Message.headerSize_le_length_encode (m : Message) : headerSize ≤ m.encode.length := by
  have h := m.type.fixedSize_ge
  rw [m.length_encode, headerSize]
  omega

/-! ## Headers -/

section Header
variable (type : MessageType) (length : Nat) (transaction : UInt32) (rest : Octets)

@[simp] theorem wordAt_headerOctets_type : wordAt (headerOctets type length transaction ++ rest) 0 = type.code :=
  joinWord_ofWord _

@[simp] theorem wordAt_headerOctets_length :
    wordAt (headerOctets type length transaction ++ rest) 4 = UInt32.ofNat length :=
  joinWord_ofWord _

@[simp] theorem wordAt_headerOctets_transaction :
    wordAt (headerOctets type length transaction ++ rest) 8 = transaction :=
  joinWord_ofWord _

theorem setWord_headerOctets_length (length' : Nat) :
    setWord (headerOctets type length transaction ++ rest) 4 (UInt32.ofNat length') =
      headerOctets type length' transaction ++ rest := rfl

@[simp] theorem setWord_fragmentOctets_number (total number number' : UInt32) :
    setWord (headerOctets type length transaction ++ (fragmentOctets total number ++ rest)) 16 number' =
      headerOctets type length transaction ++ (fragmentOctets total number' ++ rest) := rfl

end Header

/-! ## Bodies -/

theorem payloadAt_append {a p : Octets} (slack : Octets) {pos : Nat} (hpos : a.length = pos)
    (hp : p.length < 2 ^ 32) : payloadAt (a ++ (sizedPayload p ++ slack)) pos = .ok p := by
  have hword : wordAt (a ++ (sizedPayload p ++ slack)) pos = UInt32.ofNat p.length :=
    wordAt_of_eq_append (by rw [sizedPayload, List.append_assoc]) hpos
  have hsize : (wordAt (a ++ (sizedPayload p ++ slack)) pos).toNat = p.length := by rw [hword, toNat_ofNat_of_lt hp]
  have hdrop : (a ++ (sizedPayload p ++ slack)).drop (pos + 4) = p ++ slack := by
    rw [sizedPayload, List.append_assoc, ← List.append_assoc]
    exact List.drop_left' (by rw [List.length_append, hpos, length_ofWord])
  have hfit : ¬pos + 4 + p.length > (a ++ (sizedPayload p ++ slack)).length := by
    rw [List.length_append, List.length_append, length_sizedPayload, hpos]; omega
  rw [payloadAt, hsize, if_neg hfit, hdrop, List.take_left]

theorem Target.ofOctets_append {a : Octets} (t : Target) (slack : Octets) (ha : a.length = 20) :
    Target.ofOctets (a ++ (t.octets ++ slack)) = t := by
  have hservice : ((a ++ (t.octets ++ slack)).drop 20).take 16 = t.service.octets := by
    rw [List.drop_left' ha, Target.octets, List.append_assoc, List.take_left' t.service.length_octets]
  have hcommand : wordAt (a ++ (t.octets ++ slack)) 36 = t.command :=
    wordAt_of_eq_append (a := a ++ t.service.octets) (b := slack) (by simp only [Target.octets, List.append_assoc])
      (by rw [List.length_append, ha, t.service.length_octets])
  rw [Target.ofOctets, hservice, hcommand, ServiceId.ofOctets?, dif_pos t.service.length_octets]
  rfl

section Fields
variable {header : Octets} (hheader : header.length = 12) (total number : UInt32) (t : Target)
include hheader

/-- The number of fragments and the target, in whatever message has them. -/
theorem fragment_fields (rest : Octets) :
    wordAt (header ++ (fragmentOctets total number ++ (t.octets ++ rest))) 12 = total ∧
    Target.ofOctets (header ++ (fragmentOctets total number ++ (t.octets ++ rest))) = t := by
  constructor
  · exact wordAt_of_eq_append (b := ofWord number ++ (t.octets ++ rest)) rfl hheader
  · rw [← List.append_assoc]
    exact t.ofOctets_append rest (by rw [List.length_append, hheader, length_fragmentOctets])

/-- The fields of a command or its answer behind the target: `word` is the kind of the one and the status of the other. -/
theorem command_fields (word : UInt32) {p : Octets} (hp : p.length < 2 ^ 32) (slack : Octets) :
    wordAt (header ++ (fragmentOctets total number ++ (t.octets ++ (ofWord word ++ (sizedPayload p ++ slack))))) 40 =
      word ∧
    payloadAt (header ++ (fragmentOctets total number ++ (t.octets ++ (ofWord word ++ (sizedPayload p ++ slack))))) 44 =
      .ok p := by
  have hbefore : (header ++ (fragmentOctets total number ++ t.octets)).length = 40 := by simp [hheader]
  constructor
  · exact wordAt_of_eq_append (by rw [List.append_assoc, List.append_assoc]) hbefore
  · have h := payloadAt_append (a := header ++ (fragmentOctets total number ++ t.octets) ++ ofWord word) slack
      (by rw [List.length_append, hbefore, length_ofWord]) hp
    simpa only [List.append_assoc] using h

theorem indication_payload {p : Octets} (hp : p.length < 2 ^ 32) (slack : Octets) :
    payloadAt (header ++ (fragmentOctets total number ++ (t.octets ++ (sizedPayload p ++ slack)))) 40 = .ok p := by
  have hbefore : (header ++ (fragmentOctets total number ++ t.octets)).length = 40 := by simp [hheader]
  have h := payloadAt_append slack hbefore hp
  simpa only [List.append_assoc] using h

end Fields

/-- What follows the header of a message, with the fragment numbered `number` where the type has a fragment header. -/
def Body.octetsAs (number : UInt32) : Body → Octets
  | .command t k p => fragmentOctets 1 number ++ (t.octets ++ (ofWord k.code ++ sizedPayload p))
  | .commandDone t s p => fragmentOctets 1 number ++ (t.octets ++ (ofWord s.code ++ sizedPayload p))
  | .indication t p => fragmentOctets 1 number ++ (t.octets ++ sizedPayload p)
  | b => b.octets

@[simp] theorem Body.octetsAs_zero (b : Body) : b.octetsAs 0 = b.octets := by
  cases b <;> simp [octetsAs, octets]

@[simp] theorem Body.length_octetsAs (number : UInt32) (b : Body) : (b.octetsAs number).length = b.octets.length := by
  cases b <;> simp [octetsAs, octets]

/-- A body is read back behind any twelve octets and in front of any others, whatever the number of its fragment. -/
theorem Body.decode_octetsAs {b : Body} (hknown : b.type.isKnown = true) (hp : b.payload.length < 2 ^ 32)
    {header : Octets} (hheader : header.length = 12) (number : UInt32) (slack : Octets) :
    Body.decode b.type (header ++ (b.octetsAs number ++ slack)) = .ok b := by
  have hlen : ¬(header ++ (b.octetsAs number ++ slack)).length < b.type.fixedSize := by
    have := b.length_octets
    rw [List.length_append, List.length_append, b.length_octetsAs, hheader]; omega
  have hword : ∀ w : UInt32, wordAt (header ++ (ofWord w ++ slack)) 12 = w := fun w =>
    wordAt_of_eq_append rfl hheader
  unfold Body.decode
  rw [hknown, if_neg (by simp), if_neg hlen]
  cases b with
  | openRequest n => simp [Body.type, octetsAs, Body.octets, MessageType.isFragmented, hword]
  | closeRequest => rfl
  | hostError f => simp [Body.type, octetsAs, Body.octets, MessageType.isFragmented, hword]
  | openDone s => simp [Body.type, octetsAs, Body.octets, MessageType.isFragmented, hword]
  | closeDone s => simp [Body.type, octetsAs, Body.octets, MessageType.isFragmented, hword]
  | functionError f => simp [Body.type, octetsAs, Body.octets, MessageType.isFragmented, hword]
  | command t k p =>
    obtain ⟨hone, htarget⟩ := fragment_fields hheader 1 number t (ofWord k.code ++ (sizedPayload p ++ slack))
    obtain ⟨hkind, hpayload⟩ := command_fields hheader 1 number t k.code (show p.length < 2 ^ 32 from hp) slack
    simp [octetsAs, Body.type, MessageType.isFragmented, hone, htarget, hkind, hpayload, Except.map]
  | commandDone t s p =>
    obtain ⟨hone, htarget⟩ := fragment_fields hheader 1 number t (ofWord s.code ++ (sizedPayload p ++ slack))
    obtain ⟨hstatus, hpayload⟩ := command_fields hheader 1 number t s.code (show p.length < 2 ^ 32 from hp) slack
    simp [octetsAs, Body.type, MessageType.isFragmented, hone, htarget, hstatus, hpayload, Except.map]
  | indication t p =>
    obtain ⟨hone, htarget⟩ := fragment_fields hheader 1 number t (sizedPayload p ++ slack)
    have hpayload := indication_payload hheader 1 number t (show p.length < 2 ^ 32 from hp) slack
    simp [octetsAs, Body.type, MessageType.isFragmented, hone, htarget, hpayload, Except.map]
  | other code => cases hknown

/-! ## Messages -/

namespace Message

/-- The octets of a message with `slack` behind them, and the length set to what there is then. Where the type has a
fragment header, the fragment is numbered `number`. -/
def encodeWithSlack (m : Message) (number : UInt32) (slack : Octets) : Octets :=
  let data := setWord (m.encode ++ slack) 4 (UInt32.ofNat (m.encode ++ slack).length)
  if m.type.isFragmented then setWord data 16 number else data

theorem encodeWithSlack_eq (m : Message) (number : UInt32) (slack : Octets) :
    m.encodeWithSlack number slack =
      headerOctets m.type (m.encode.length + slack.length) m.transaction ++ (m.body.octetsAs number ++ slack) := by
  have hlength : setWord (m.encode ++ slack) 4 (UInt32.ofNat (m.encode ++ slack).length) =
      headerOctets m.type (m.encode.length + slack.length) m.transaction ++ (m.body.octets ++ slack) := by
    rw [List.length_append]
    generalize m.encode.length + slack.length = n
    rw [encode, List.append_assoc, setWord_headerOctets_length]
  rw [encodeWithSlack, hlength]
  obtain ⟨t, b⟩ := m
  cases b with
  | command t k p => simp [type, Body.type, MessageType.isFragmented, Body.octets, Body.octetsAs]
  | commandDone t s p => simp [type, Body.type, MessageType.isFragmented, Body.octets, Body.octetsAs]
  | indication t p => simp [type, Body.type, MessageType.isFragmented, Body.octets, Body.octetsAs]
  | _ => rfl

theorem encodeWithSlack_zero_nil (m : Message) : m.encodeWithSlack 0 [] = m.encode := by
  have := m.body.length_octets
  rw [encodeWithSlack_eq, Body.octetsAs_zero, List.append_nil, List.length_nil, Nat.add_zero, length_encode, type, ← this]
  rfl

theorem length_encodeWithSlack (m : Message) (number : UInt32) (slack : Octets) :
    (m.encodeWithSlack number slack).length = m.type.fixedSize + m.body.payload.length + slack.length := by
  have := m.body.length_octets
  rw [encodeWithSlack_eq, List.length_append, List.length_append, length_headerOctets, Body.length_octetsAs, type]
  omega

/-- Octets are a message if the header gives their number and the body can be read. -/
theorem decode_eq_ok_iff {data : Octets} {m : Message} :
    decode data = .ok m ↔ headerSize ≤ data.length ∧ (data.wordAt 4).toNat = data.length ∧
      m.transaction = data.wordAt 8 ∧ Body.decode (.ofCode (data.wordAt 0)) data = .ok m.body := by
  obtain ⟨transaction, body⟩ := m
  unfold decode Header.decode
  by_cases hshort : data.length < headerSize
  · have hnot : ¬ headerSize ≤ data.length := Nat.not_le.2 hshort
    simp [hshort, hnot, bind, Except.bind]
  by_cases hlength : (data.wordAt 4).toNat = data.length
  · cases hbody : Body.decode (.ofCode (data.wordAt 0)) data with
    | error e => simp [hshort, hlength, hbody, bind, Except.bind]
    | ok b =>
      simp only [hshort, hlength, hbody, bind, Except.bind, pure, Except.pure, if_false, ne_eq, not_true]
      simp
      constructor
      · rintro ⟨rfl, rfl⟩
        exact ⟨by omega, rfl, rfl⟩
      · rintro ⟨-, rfl, rfl⟩
        exact ⟨rfl, rfl⟩
  · simp [hshort, hlength, bind, Except.bind, throw, throwThe, MonadExceptOf.throw]

/-- A canonical message is read back whatever stands behind it, as long as the length can be given. -/
theorem decode_encodeWithSlack {m : Message} (h : m.Canonical) (number : UInt32) {slack : Octets}
    (hshort : (m.encodeWithSlack number slack).length < 2 ^ 32) : decode (m.encodeWithSlack number slack) = .ok m := by
  have hp : m.body.payload.length < 2 ^ 32 := by have := h.short; omega
  have hlength := m.length_encodeWithSlack number slack
  have hfixed := m.type.fixedSize_ge
  have hword : m.encode.length + slack.length = (m.encodeWithSlack number slack).length := by
    rw [length_encode, hlength]
  have heq := m.encodeWithSlack_eq number slack
  rw [hword] at heq
  refine decode_eq_ok_iff.2 ⟨by rw [headerSize]; omega, ?_, ?_, ?_⟩
  · rw [heq, wordAt_headerOctets_length, ← heq, toNat_ofNat_of_lt hshort]
  · rw [heq, wordAt_headerOctets_transaction]
  · rw [heq, wordAt_headerOctets_type, MessageType.ofCode_code_of_isKnown h.known]
    exact Body.decode_octetsAs h.known hp (length_headerOctets _ _ _) number slack

/-- **A canonical message is read back from its octets.** -/
theorem decode_encode {m : Message} (h : m.Canonical) : decode m.encode = .ok m := by
  have hshort := h.short
  rw [← encodeWithSlack_zero_nil]
  exact decode_encodeWithSlack h 0 (by rw [length_encodeWithSlack]; exact hshort)

end Message

end SimPhonebook
