import Mathlib.Data.List.Forall2
import Telemetry.Proofs.Rpc.Wire

/-!
# Calls that were read are written and read again

Every reader leaves an end of its bytes, so the name of an entry that was read
stands somewhere in the bytes of its call.  A call that came in bytes of some
length therefore has no longer names, and can be written and read once more.
-/

namespace Telemetry
namespace Rpc

/-! ## What a reader leaves -/

/-- A number of variable length leaves an end of the bytes. -/
theorem suffix_readVarintFrom?
    {last room value : Nat} {bytes rest : Bytes}
    (read : readVarintFrom? last room bytes = some (value, rest)) :
    rest <:+ bytes := by
  fun_induction readVarintFrom? last room bytes generalizing value with
  | case1 => cases read
  | case2 => cases read
  | case3 => cases read
  | case4 =>
      cases read
      exact List.suffix_cons _ _
  | case5 => cases read
  | case6 room byte tail _ _ higher after inner inductionHypothesis =>
      cases read
      exact (inductionHypothesis inner).trans (List.suffix_cons _ _)

theorem suffix_readVarint?
    {value : Nat} {bytes rest : Bytes}
    (read : readVarint? bytes = some (value, rest)) :
    rest <:+ bytes :=
  suffix_readVarintFrom? read

theorem suffix_readKey?
    {key : Key} {bytes rest : Bytes}
    (read : readKey? bytes = some (key, rest)) :
    rest <:+ bytes := by
  unfold readKey? at read
  split at read
  next => cases read
  next value after number =>
    split at read
    next =>
      obtain ⟨form, -, same⟩ := Option.map_eq_some_iff.mp read
      cases same
      exact suffix_readVarint? number
    next => cases read

/-- Bytes that are taken off stand at the front, and what they leave behind them. -/
theorem append_of_takeBytes?
    {count : Nat} {bytes content rest : Bytes}
    (taken : takeBytes? count bytes = some (content, rest)) :
    content ++ rest = bytes := by
  unfold takeBytes? at taken
  split at taken
  next =>
    cases taken
    exact List.take_append_drop count bytes
  next => cases taken

theorem suffix_takeBytes?
    {count : Nat} {bytes content rest : Bytes}
    (taken : takeBytes? count bytes = some (content, rest)) :
    rest <:+ bytes :=
  ⟨content, append_of_takeBytes? taken⟩

/-- A piece stands in the bytes that it is read from, and leaves an end of them. -/
theorem infix_readSized?
    {bytes content rest : Bytes}
    (read : readSized? bytes = some (content, rest)) :
    content <:+: bytes ∧ rest <:+ bytes := by
  unfold readSized? at read
  split at read
  next => cases read
  next count after number =>
    have within := suffix_readVarint? number
    have front : content <+: after := ⟨rest, append_of_takeBytes? read⟩
    exact ⟨front.isInfix.trans within.isInfix, (suffix_takeBytes? read).trans within⟩

/-- Two readers one after the other leave an end of the bytes when each of them does. -/
theorem suffix_bind
    {α : Type} {first : Option (α × Bytes)} {later : Bytes -> Option Bytes} {bytes rest : Bytes}
    (leaves : ∀ value after, first = some (value, after) -> after <:+ bytes)
    (leavesLater : ∀ after, later after = some rest -> rest <:+ after)
    (read : (first.bind fun (_, after) => later after) = some rest) :
    rest <:+ bytes := by
  obtain ⟨⟨value, after⟩, isFirst, isLater⟩ := Option.bind_eq_some_iff.mp read
  exact (leavesLater after isLater).trans (leaves value after isFirst)

/-- Groups that are skipped leave an end of the bytes. -/
theorem suffix_skipGroups?
    {limit : Nat} {fuel : Bytes} {opened : List Nat} {bytes rest : Bytes}
    (skipped : skipGroups? limit fuel opened bytes = some rest) :
    rest <:+ bytes := by
  fun_induction skipGroups? limit fuel opened bytes with
  | case1 =>
      cases skipped
      exact List.suffix_rfl
  | case2 | case3 | case5 | case6 => cases skipped
  | case4 unit fuel outer bytes key content isKey _ inductionHypothesis =>
      exact (inductionHypothesis skipped).trans (suffix_readKey? isKey)
  | case7 unit fuel innermost outer bytes key content isKey _ _ _ inductionHypothesis =>
      exact (inductionHypothesis skipped).trans (suffix_readKey? isKey)
  | case8 unit fuel innermost outer bytes key content isKey _ _ _ inductionHypothesis =>
      exact (suffix_bind (fun _ _ => suffix_readVarint?) inductionHypothesis skipped).trans
        (suffix_readKey? isKey)
  | case9 unit fuel innermost outer bytes key content isKey _ _ _ inductionHypothesis =>
      exact (suffix_bind (fun _ _ read => (infix_readSized? read).2) inductionHypothesis
        skipped).trans (suffix_readKey? isKey)
  | case10 unit fuel innermost outer bytes key content isKey _ _ _ inductionHypothesis =>
      exact (suffix_bind (fun _ _ => suffix_takeBytes?) inductionHypothesis skipped).trans
        (suffix_readKey? isKey)
  | case11 unit fuel innermost outer bytes key content isKey _ _ _ _ _ _ inductionHypothesis =>
      exact (suffix_bind (fun _ _ => suffix_takeBytes?) inductionHypothesis skipped).trans
        (suffix_readKey? isKey)

/-- A field that is skipped leaves an end of the bytes. -/
theorem suffix_skipField?
    {limit : Nat} {key : Key} {bytes rest : Bytes}
    (skipped : skipField? limit key bytes = some rest) :
    rest <:+ bytes := by
  unfold skipField? at skipped
  split at skipped
  next =>
    obtain ⟨⟨value, after⟩, read, rfl⟩ := Option.map_eq_some_iff.mp skipped
    exact suffix_readVarint? read
  next =>
    obtain ⟨⟨content, after⟩, read, rfl⟩ := Option.map_eq_some_iff.mp skipped
    exact (infix_readSized? read).2
  next =>
    obtain ⟨⟨content, after⟩, taken, rfl⟩ := Option.map_eq_some_iff.mp skipped
    exact suffix_takeBytes? taken
  next =>
    obtain ⟨⟨content, after⟩, taken, rfl⟩ := Option.map_eq_some_iff.mp skipped
    exact suffix_takeBytes? taken
  next => exact suffix_skipGroups? skipped
  next => cases skipped

/-! ## Names -/

namespace Entry

/-- The name of an entry stands somewhere in some bytes. -/
def IsNamedIn (entry : Entry) (bytes : Bytes) : Prop :=
  Bytes.ofText entry.id <:+: bytes

/-- A field leaves an entry whose name is in the bytes, the name that it gives included. -/
theorem IsNamedIn.readField?
    {entry next : Entry} {key : Key} {bytes rest whole : Bytes}
    (named : entry.IsNamedIn whole)
    (within : bytes <:+ whole)
    (read : entry.readField? key bytes = some (next, rest)) :
    next.IsNamedIn whole ∧ rest <:+ whole := by
  unfold Entry.readField? at read
  split at read
  next =>
    split at read
    next =>
      split at read
      next => cases read
      next content after isSized =>
        obtain ⟨name, isText, same⟩ := Option.map_eq_some_iff.mp read
        cases same
        obtain ⟨present, later⟩ := infix_readSized? isSized
        rw [Bytes.text?_eq_some_iff.mp isText] at present
        exact ⟨present.trans within.isInfix, later.trans within⟩
    next => cases read
  next =>
    split at read
    next =>
      obtain ⟨⟨value, after⟩, number, same⟩ := Option.map_eq_some_iff.mp read
      cases same
      exact ⟨named, (suffix_readVarint? number).trans within⟩
    next => cases read
  next =>
    split at read
    next =>
      obtain ⟨⟨value, after⟩, number, same⟩ := Option.map_eq_some_iff.mp read
      cases same
      exact ⟨named, (suffix_readVarint? number).trans within⟩
    next => cases read
  next =>
    split at read
    next =>
      obtain ⟨⟨content, after⟩, taken, same⟩ := Option.map_eq_some_iff.mp read
      cases same
      exact ⟨named, (suffix_takeBytes? taken).trans within⟩
    next => cases read
  next =>
    obtain ⟨after, skipped, same⟩ := Option.map_eq_some_iff.mp read
    cases same
    exact ⟨named, (suffix_skipField? skipped).trans within⟩

/-- All fields together leave an entry whose name is in the bytes. -/
theorem IsNamedIn.readFields?
    {entry result : Entry} {fuel bytes whole : Bytes}
    (named : entry.IsNamedIn whole)
    (within : bytes <:+ whole)
    (read : Entry.readFields? fuel entry bytes = some result) :
    result.IsNamedIn whole := by
  fun_induction Entry.readFields? fuel entry bytes with
  | case1 =>
      cases read
      exact named
  | case2 | case3 | case4 => cases read
  | case5 unit fuel entry first others key content isKey next after isField inductionHypothesis =>
      obtain ⟨namedNext, later⟩ :=
        named.readField? ((suffix_readKey? isKey).trans within) isField
      exact inductionHypothesis namedNext later read

/-- The name of an entry stands in the bytes that it is read from. -/
theorem isNamedIn_of_read?
    {entry : Entry} {bytes : Bytes}
    (read : read? bytes = some entry) :
    entry.IsNamedIn bytes := by
  have blank : ({} : Entry).IsNamedIn bytes := by
    have empty : Bytes.ofText ({} : Entry).id = [] := rfl
    rw [IsNamedIn, empty]
    exact List.nil_infix
  exact blank.readFields? List.suffix_rfl read

end Entry

/-- Entries that are read behind others have their names in the bytes when the others have. -/
theorem isNamedIn_of_readEntries?
    {fuel bytes whole : Bytes} {done entries : List Entry}
    (named : ∀ entry ∈ done, entry.IsNamedIn whole)
    (within : bytes <:+ whole)
    (read : readEntries? fuel done bytes = some entries) :
    ∀ entry ∈ entries, entry.IsNamedIn whole := by
  fun_induction readEntries? fuel done bytes with
  | case1 =>
      cases read
      exact fun entry present => named entry (List.mem_reverse.mp present)
  | case2 | case3 | case4 | case5 | case7 | case8 => cases read
  | case6 unit fuel done first others key content isKey _ _ body after isSized entry isEntry
      inductionHypothesis =>
      have behind := (suffix_readKey? isKey).trans within
      obtain ⟨present, later⟩ := infix_readSized? isSized
      have namedHere : entry.IsNamedIn whole :=
        (Entry.isNamedIn_of_read? isEntry).trans (present.trans behind.isInfix)
      exact inductionHypothesis (List.forall_mem_cons.mpr ⟨namedHere, named⟩)
        (later.trans behind) read
  | case9 unit fuel done first others key content isKey _ after skipped inductionHypothesis =>
      exact inductionHypothesis named
        ((suffix_skipField? skipped).trans ((suffix_readKey? isKey).trans within)) read

/-- The names of the entries of a call stand in its bytes. -/
theorem isNamedIn_of_readCall?
    {bytes : Bytes} {entries : List Entry}
    (read : readCall? bytes = some entries) :
    ∀ entry ∈ entries, entry.IsNamedIn bytes :=
  isNamedIn_of_readEntries? (fun _ none => by cases none) List.suffix_rfl read

/-! ## Calls -/

/-- An entry is another one but for the spelling of its value: the two values are one number, or
neither is a number. -/
structure Entry.Agrees (received sent : Entry) : Prop where
  id : received.id = sent.id
  tag : received.tag = sent.tag
  delta : received.delta = sent.delta
  value : received.value.SameNumber sent.value

theorem Entry.agrees_received (entry : Entry) : entry.received.Agrees entry where
  id := rfl
  tag := rfl
  delta := rfl
  value := entry.value.sameNumber_unsignedZero

/-- Entries whose names fit into memory come back from their call, in their order. -/
theorem exists_readCall?_writeCall
    {entries : List Entry}
    (short : ∀ entry ∈ entries, (Bytes.ofText entry.id).length < 2 ^ 63) :
    ∃ received, readCall? (writeCall entries) = some received ∧
      List.Forall₂ Entry.Agrees received entries := by
  refine ⟨entries.map Entry.received, readCall?_writeCall fun entry present => ?_, ?_⟩
  · have length := short entry present
    have room : 2 ^ 63 + 50 < UInt64.size := by decide
    omega
  · exact List.forall₂_map_left_iff.mpr
      (List.forall₂_same.mpr fun entry _ => entry.agrees_received)

/--
Whatever entries are written, of any name that fits into memory, any number of a kind, any delta and
any value, they are read again from the bytes of their call, in their order, with the same names,
kinds and deltas and with values that are the same numbers.  So are the entries that were read from
any bytes that fit into memory, also where the bytes hold unknown, repeated or misplaced fields.
-/
theorem entries_reread_from_their_call :
    (∀ entries : List Entry, (∀ entry ∈ entries, (Bytes.ofText entry.id).length < 2 ^ 63) ->
      ∃ received, readCall? (writeCall entries) = some received ∧
        List.Forall₂ Entry.Agrees received entries) ∧
    ∀ (bytes : Bytes) (entries : List Entry), bytes.length < 2 ^ 63 ->
      readCall? bytes = some entries ->
        ∃ received, readCall? (writeCall entries) = some received ∧
          List.Forall₂ Entry.Agrees received entries := by
  refine ⟨fun _ => exists_readCall?_writeCall, fun bytes entries fits read => ?_⟩
  refine exists_readCall?_writeCall fun entry present => ?_
  exact (isNamedIn_of_readCall? read entry present).length_le.trans_lt fits

/-- A call with an unknown field before its entry, whose value comes first, whose name is given
twice and whose number of a kind is negative, with an unknown group before the delta. -/
def scatteredCall : Bytes :=
  [0x78, 0x01, 0x0a, 0x1e, 0x21, 0, 0, 0, 0, 0, 0, 0, 0x80, 0x0a, 0x01, 0x61, 0x0a, 0x01, 0x62,
    0x10, 0xff, 0xff, 0xff, 0xff, 0xff, 0xff, 0xff, 0xff, 0xff, 0x01, 0x3b, 0x3c, 0x18, 0x05]

theorem scatteredCall_reread :
    let entries : List Entry := [⟨"b", -1, 5, Binary64.zero true⟩]
    readCall? scatteredCall = some entries ∧
      ∃ received, readCall? (writeCall entries) = some received ∧
        List.Forall₂ Entry.Agrees received entries := by
  intro entries
  have read : readCall? scatteredCall = some entries := by decide +kernel
  exact ⟨read, entries_reread_from_their_call.2 scatteredCall entries (by decide) read⟩

end Rpc
end Telemetry
