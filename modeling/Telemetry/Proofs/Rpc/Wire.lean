import Mathlib.Tactic.Ring
import Telemetry.Proofs.Bytes
import Telemetry.Proofs.Text.Encoding
import Telemetry.Rpc.Entry

/-!
# Written calls are read

What is written of a number, of a key, of a sized piece and of a field is read
back from the front of any bytes, and leaves what follows.  So the entries of a
call come back in their order, except that a negative zero loses its sign: a
field that has its default is left out, and both zeros count as the default.
-/

namespace Telemetry

/-- The number itself, but zero without a sign. -/
def Binary64.unsignedZero (number : Binary64) : Binary64 :=
  if number.isZero then ⟨0⟩ else number

/-- Equality of numbers, with everything that stands for no number counted as equal. -/
def Binary64.SameNumber (left right : Binary64) : Prop :=
  left.numericallyEqual right = true ∨ (left.isNaN = true ∧ right.isNaN = true)

theorem Binary64.sameNumber_unsignedZero (number : Binary64) :
    number.unsignedZero.SameNumber number := by
  unfold SameNumber unsignedZero numericallyEqual
  cases zero : number.isZero with
  | true =>
      have magnitude : number.magnitude = 0 := by simpa [isZero] using zero
      have notNaN : number.isNaN = false := by simp [isNaN, magnitude]
      left
      have plain : (⟨0⟩ : Binary64).isNaN = false := by decide
      have plainZero : (⟨0⟩ : Binary64).isZero = true := by decide
      rw [if_pos rfl, notNaN, plain, plainZero]
      simp
  | false =>
      rw [if_neg (by simp)]
      cases stands : number.isNaN <;> simp

namespace Rpc

/-! ## Numbers of variable length -/

/-- A number comes back if it takes no more bytes than there is room for, and the last of as many
bytes stays below its limit. -/
theorem readVarintFrom?_writeVarint
    {last room value : Nat}
    (limit : last ≤ 128)
    (fits : value < last * 128 ^ room)
    (rest : Bytes) :
    readVarintFrom? last (room + 1) (writeVarint value ++ rest) = some (value, rest) := by
  induction room generalizing value with
  | zero =>
      have small : value < 128 := by omega
      have byte : (UInt8.ofNat value).toNat = value := by
        rw [UInt8.toNat_ofNat', Nat.mod_eq_of_lt (by omega)]
      rw [writeVarint, if_pos small, List.singleton_append, readVarintFrom?, byte,
        if_neg (by omega), if_pos small]
  | succ room inductionHypothesis =>
      by_cases small : value < 128
      · have byte : (UInt8.ofNat value).toNat = value := by
          rw [UInt8.toNat_ofNat', Nat.mod_eq_of_lt (by omega)]
        rw [writeVarint, if_pos small, List.singleton_append, readVarintFrom?, byte,
          if_neg (by omega), if_pos small]
      · have byte : (UInt8.ofNat (value % 128 + 128)).toNat = value % 128 + 128 := by
          rw [UInt8.toNat_ofNat', Nat.mod_eq_of_lt (by omega)]
        have higher : value / 128 < last * 128 ^ room := by
          rw [Nat.div_lt_iff_lt_mul (by decide), Nat.mul_assoc, ← Nat.pow_succ]
          exact fits
        rw [writeVarint, if_neg small, List.cons_append, readVarintFrom?, byte,
          if_neg (by omega), if_neg (by omega), inductionHypothesis higher]
        exact congrArg some (Prod.ext (by dsimp only; omega) rfl)

/-- A number of sixty-four bits comes back. -/
theorem readVarint?_writeVarint
    {value : Nat}
    (fits : value < UInt64.size)
    (rest : Bytes) :
    readVarint? (writeVarint value ++ rest) = some (value, rest) :=
  readVarintFrom?_writeVarint (by decide) (Nat.lt_of_lt_of_le fits (by decide)) rest

theorem writeVarint_ne_nil (value : Nat) : writeVarint value ≠ [] := by
  unfold writeVarint
  split <;> exact List.cons_ne_nil _ _

/-- A number takes as many bytes as it has groups of seven bits. -/
theorem length_writeVarint_le
    {room value : Nat}
    (fits : value < 128 ^ (room + 1)) :
    (writeVarint value).length ≤ room + 1 := by
  induction room generalizing value with
  | zero => rw [writeVarint, if_pos (by simpa using fits), List.length_singleton]
  | succ room inductionHypothesis =>
      rw [writeVarint]
      split
      next => exact Nat.succ_le_succ (Nat.zero_le _)
      next =>
        refine Nat.succ_le_succ (inductionHypothesis ?_)
        rw [Nat.div_lt_iff_lt_mul (by decide), ← Nat.pow_succ]
        exact fits

/-- A number of sixty-four bits takes ten bytes at most. -/
theorem length_writeVarint_le_ten
    {value : Nat}
    (fits : value < UInt64.size) :
    (writeVarint value).length ≤ 10 :=
  length_writeVarint_le (Nat.lt_of_lt_of_le fits (by decide))

theorem ofSigned_lt (value : Int64) : ofSigned value < UInt64.size :=
  value.toUInt64.toNat_lt

@[simp] theorem toSigned_ofSigned (value : Int64) : toSigned (ofSigned value) = value := by
  rw [toSigned, ofSigned, UInt64.ofNat_toNat, Int64.toInt64_toUInt64]

/-! ## Keys and pieces -/

/-- A key whose number is not too large comes back. -/
theorem readKey?_write
    (key : Key)
    (positive : 0 < key.field)
    (small : 8 * key.field + 7 < UInt32.size)
    (rest : Bytes) :
    readKey? (key.write ++ rest) = some (key, rest) := by
  have code : key.form.code < 8 := by cases key.form <;> decide
  have size : UInt32.size < UInt64.size := by decide
  have form : (8 * key.field + key.form.code) % 8 = key.form.code := by omega
  have field : (8 * key.field + key.form.code) / 8 = key.field := by omega
  rw [readKey?, Key.write, readVarint?_writeVarint (by omega)]
  dsimp only
  rw [if_pos (by omega), form, field, Form.ofCode?_code]
  rfl

theorem takeBytes?_append (bytes rest : Bytes) :
    takeBytes? bytes.length (bytes ++ rest) = some (bytes, rest) := by
  have enough : (bytes ++ rest).hasAtLeast bytes.length = true :=
    Bytes.hasAtLeast_iff.mpr (by simp)
  rw [takeBytes?, if_pos enough, List.take_left, List.drop_left]

/-- A piece comes back if its length can be written. -/
theorem readSized?_sized
    {bytes : Bytes}
    (fits : bytes.length < UInt64.size)
    (rest : Bytes) :
    readSized? (Entry.sized bytes ++ rest) = some (bytes, rest) := by
  rw [readSized?, Entry.sized, List.append_assoc, readVarint?_writeVarint fits]
  exact takeBytes?_append bytes rest

theorem write_key_ne_nil (key : Key) : key.write ≠ [] := writeVarint_ne_nil _

/-! ## Entries -/

namespace Entry

/-- Bytes at the front take an entry to another one, whatever follows them, and leave fuel enough
for what follows. -/
def Takes (entry : Entry) (bytes : Bytes) (next : Entry) : Prop :=
  ∀ rest fuel : Bytes, (bytes ++ rest).length ≤ fuel.length ->
    ∃ spare : Bytes, rest.length ≤ spare.length ∧
      readFields? fuel entry (bytes ++ rest) = readFields? spare next rest

theorem Takes.append
    {entry next last : Entry} {front back : Bytes}
    (takes : entry.Takes front next)
    (takesLater : next.Takes back last) :
    entry.Takes (front ++ back) last := by
  intro rest fuel enough
  rw [List.append_assoc] at enough ⊢
  obtain ⟨spare, enoughLater, read⟩ := takes (back ++ rest) fuel enough
  obtain ⟨left, enoughLeft, readLater⟩ := takesLater rest spare enoughLater
  exact ⟨left, enoughLeft, read.trans readLater⟩

/-- A field takes an entry to the one with its value, also where it was left out because the entry
has that value already. -/
theorem takes_field
    {entry next : Entry} {isDefault : Bool} {number : Nat} {form : Form} {value : Bytes}
    (positive : 0 < number)
    (small : 8 * number + 7 < UInt32.size)
    (kept : isDefault = true -> next = entry)
    (reads : isDefault = false ->
      ∀ rest, entry.readField? ⟨number, form⟩ (value ++ rest) = some (next, rest)) :
    entry.Takes (field isDefault number form value) next := by
  intro rest fuel enough
  cases isDefault with
  | true =>
      rw [kept rfl]
      exact ⟨fuel, enough, rfl⟩
  | false =>
      let key : Key := ⟨number, form⟩
      have bytes : field false number form value ++ rest = key.write ++ (value ++ rest) :=
        List.append_assoc ..
      have read := readKey?_write key positive small (value ++ rest)
      obtain ⟨first, others, written⟩ := List.exists_cons_of_ne_nil (write_key_ne_nil key)
      rw [bytes, written, List.cons_append] at enough
      rw [bytes]
      rw [written, List.cons_append] at read ⊢
      cases fuel with
      | nil => simp at enough
      | cons unit spare =>
          refine ⟨spare, ?_, ?_⟩
          · simp only [List.length_cons, List.length_append] at enough
            omega
          · rw [readFields?, read]
            dsimp only
            rw [reads rfl]

/-- What a receiver makes of a written entry: a value of zero has lost its sign. -/
def received (entry : Entry) : Entry :=
  { entry with value := entry.value.unsignedZero }

/-- The bytes of an entry make it from the blank one, if the length of its name can be written. -/
theorem takes_write
    {entry : Entry}
    (fits : (Bytes.ofText entry.id).length < UInt64.size) :
    ({} : Entry).Takes entry.write entry.received := by
  let named : Entry := { id := entry.id }
  let tagged : Entry := { named with tag := entry.tag }
  let counted : Entry := { tagged with delta := entry.delta }
  have name : ({} : Entry).Takes
      (field (entry.id == "") 1 .sized (sized (Bytes.ofText entry.id))) named := by
    refine takes_field (by decide) (by decide) (fun empty => ?_) (fun _ rest => ?_)
    · rw [show named = { id := entry.id } from rfl, beq_iff_eq.mp empty]
    · simp [readField?, readSized?_sized fits, named]
  have tag : named.Takes
      (field (entry.tag == 0) 2 .varint (writeVarint (ofSigned entry.tag.toInt64))) tagged := by
    refine takes_field (by decide) (by decide) (fun zero => ?_) (fun _ rest => ?_)
    · rw [show tagged = { named with tag := entry.tag } from rfl, beq_iff_eq.mp zero]
    · simp [readField?, readVarint?_writeVarint (ofSigned_lt _), tagged]
  have delta : tagged.Takes
      (field (entry.delta == 0) 3 .varint (writeVarint (ofSigned entry.delta))) counted := by
    refine takes_field (by decide) (by decide) (fun zero => ?_) (fun _ rest => ?_)
    · rw [show counted = { tagged with delta := entry.delta } from rfl, beq_iff_eq.mp zero]
    · simp [readField?, readVarint?_writeVarint (ofSigned_lt _), counted]
  have value : counted.Takes
      (field entry.value.isZero 4 .eight (Bytes.ofNatLittle 8 entry.value.bits.toNat))
      entry.received := by
    refine takes_field (by decide) (by decide) (fun zero => ?_) (fun solid rest => ?_)
    · rw [received, Binary64.unsignedZero, if_pos zero]
    · have small : entry.value.bits.toNat < 256 ^ 8 := entry.value.bits.toNat_lt
      have content := takeBytes?_append (Bytes.ofNatLittle 8 entry.value.bits.toNat) rest
      rw [Bytes.length_ofNatLittle] at content
      have kept : entry.value.unsignedZero = entry.value := if_neg (by simp [solid])
      have bits : UInt64.ofNat (Bytes.toNatLittle
          (Bytes.ofNatLittle 8 entry.value.bits.toNat)) = entry.value.bits := by
        rw [Bytes.toNatLittle_ofNatLittle, Nat.mod_eq_of_lt small, UInt64.ofNat_toNat]
      simp [readField?, content, bits, counted, tagged, named, received, kept]
  exact ((name.append tag).append delta).append value

/-- An entry comes back from its bytes, but a value of zero loses its sign. -/
theorem read?_write
    {entry : Entry}
    (fits : (Bytes.ofText entry.id).length < UInt64.size) :
    read? entry.write = some entry.received := by
  obtain ⟨spare, -, read⟩ := takes_write fits [] entry.write (by simp)
  rw [List.append_nil] at read
  rw [read?, read]
  cases spare <;> rfl

/-- An entry takes not much more bytes than its name. -/
theorem length_write_le
    {entry : Entry}
    (fits : (Bytes.ofText entry.id).length < UInt64.size) :
    entry.write.length ≤ (Bytes.ofText entry.id).length + 50 := by
  have fieldLength (isDefault : Bool) (number : Nat) (form : Form) (value : Bytes)
      (small : number < 16) :
      (field isDefault number form value).length ≤ 1 + value.length := by
    have key : (Key.write ⟨number, form⟩).length ≤ 0 + 1 := by
      refine length_writeVarint_le ?_
      have code : form.code < 8 := by cases form <;> decide
      dsimp only
      omega
    unfold field
    split
    · exact Nat.zero_le _
    · rw [List.length_append]
      omega
  have name := fieldLength (entry.id == "") 1 .sized (sized (Bytes.ofText entry.id)) (by decide)
  have tag := fieldLength (entry.tag == 0) 2 .varint
    (writeVarint (ofSigned entry.tag.toInt64)) (by decide)
  have delta := fieldLength (entry.delta == 0) 3 .varint
    (writeVarint (ofSigned entry.delta)) (by decide)
  have value := fieldLength entry.value.isZero 4 .eight
    (Bytes.ofNatLittle 8 entry.value.bits.toNat) (by decide)
  have nameLength := length_writeVarint_le_ten fits
  have tagLength := length_writeVarint_le_ten (ofSigned_lt entry.tag.toInt64)
  have deltaLength := length_writeVarint_le_ten (ofSigned_lt entry.delta)
  have piece : (sized (Bytes.ofText entry.id)).length =
      (writeVarint (Bytes.ofText entry.id).length).length + (Bytes.ofText entry.id).length :=
    List.length_append
  rw [Bytes.length_ofNatLittle] at value
  simp only [write, List.length_append]
  omega

end Entry

/-! ## Calls -/

/-- Written entries are read one after the other behind those that have been read. -/
theorem readEntries?_writeCall
    {entries : List Entry}
    (fits : ∀ entry ∈ entries, (Bytes.ofText entry.id).length + 50 < UInt64.size)
    (done : List Entry)
    {fuel : Bytes}
    (enough : (writeCall entries).length ≤ fuel.length) :
    readEntries? fuel done (writeCall entries) =
      some (done.reverse ++ entries.map Entry.received) := by
  induction entries generalizing done fuel with
  | nil =>
      rw [List.map_nil, List.append_nil]
      cases fuel <;> rfl
  | cons entry others inductionHypothesis =>
      let key : Key := ⟨1, .sized⟩
      have named := fits entry List.mem_cons_self
      have nameFits : (Bytes.ofText entry.id).length < UInt64.size := by omega
      have length := Entry.length_write_le nameFits
      have bodyFits : entry.write.length < UInt64.size := by omega
      have bytes : writeCall (entry :: others) =
          key.write ++ (Entry.sized entry.write ++ writeCall others) := by
        rw [writeCall, List.flatMap_cons, List.append_assoc]
        rfl
      have readKey := readKey?_write key (by decide) (by decide)
        (Entry.sized entry.write ++ writeCall others)
      have readBody := readSized?_sized bodyFits (writeCall others)
      have readEntry := Entry.read?_write nameFits
      obtain ⟨first, back, written⟩ := List.exists_cons_of_ne_nil (write_key_ne_nil key)
      rw [bytes, written, List.cons_append] at enough
      rw [written, List.cons_append] at readKey
      rw [bytes, written, List.cons_append]
      cases fuel with
      | nil => simp at enough
      | cons unit spare =>
          have enoughLater : (writeCall others).length ≤ spare.length := by
            simp only [List.length_cons, List.length_append] at enough
            omega
          rw [readEntries?, readKey]
          dsimp only
          rw [if_pos rfl, if_pos rfl, readBody]
          dsimp only
          rw [readEntry]
          dsimp only
          rw [inductionHypothesis (fun other later => fits other (List.mem_cons_of_mem _ later))
            (entry.received :: done) enoughLater, List.reverse_cons, List.append_assoc]
          rfl

/-- The entries of a call come back in their order, if the lengths of their bytes can be
written. -/
theorem readCall?_writeCall
    {entries : List Entry}
    (fits : ∀ entry ∈ entries, (Bytes.ofText entry.id).length + 50 < UInt64.size) :
    readCall? (writeCall entries) = some (entries.map Entry.received) :=
  readEntries?_writeCall fits [] (Nat.le_refl _)

end Rpc
end Telemetry
