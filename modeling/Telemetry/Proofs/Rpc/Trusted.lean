import Telemetry.Proofs.Network.Address
import Telemetry.Proofs.Network.Subnet
import Telemetry.Proofs.Signature
import Telemetry.Rpc.Server

/-!
# Only trusted calls reach the service

A server with a subnet trusts a call that names a member of the subnet as its
address.  Any other call is denied and changes nothing, wherever it stands in a
run of calls, so the run goes on as if it had not been made.  Every member of
the subnet is trusted when a call names it as its text is written.
-/

namespace Telemetry
namespace Rpc

/-- All bytes of a value are visible characters of ASCII, blanks or tabs. -/
def IsVisible (value : Bytes) : Prop :=
  ∀ byte ∈ value, (0x20 ≤ byte ∧ byte ≤ 0x7e) ∨ byte = 0x09

/-- The first of the values in which a call gives its address is a visible text, which is that of
an address but for blanks around it. -/
def Call.Names (call : Call) (address : Network.Address) : Prop :=
  ∃ text others, call.addresses = Bytes.ofText text :: others ∧ IsVisible (Bytes.ofText text) ∧
    Network.Address.read? (Text.trim text) = some address

/-- A server trusts a call if the address that the call names belongs to the subnet, or if there is
no subnet. -/
def Server.Trusts (server : Server) (call : Call) : Prop :=
  ∀ subnet, server.subnet = some subnet -> ∃ address, call.Names address ∧ subnet.Covers address

/-! ## The address of a call -/

theorem isVisible_iff (value : Bytes) : IsVisible value ↔ value.all Http.isTextByte = true := by
  simp [IsVisible, Http.isTextByte]

theorem valueText?_eq_some_iff {value : Bytes} {text : String} :
    Http.valueText? value = some text ↔ value = Bytes.ofText text ∧ IsVisible value := by
  rw [isVisible_iff, Http.valueText?]
  split
  next visible => rw [Bytes.text?_eq_some_iff, and_iff_left visible]
  next hidden => exact iff_of_false (by simp) fun both => hidden both.2

/-- A call names an address when its address is the text of it. -/
theorem Call.names_iff (call : Call) (address : Network.Address) :
    call.Names address ↔
      ∃ text, call.address? = some text ∧ Network.Address.read? text = some address := by
  unfold Names address?
  cases call.addresses with
  | nil => simp
  | cons first others =>
      constructor
      · rintro ⟨text, _, ⟨rfl, rfl⟩, visible, read⟩
        have isText := valueText?_eq_some_iff.mpr ⟨rfl, visible⟩
        exact ⟨Text.trim text, by simp [isText], read⟩
      · rintro ⟨_, found, read⟩
        obtain ⟨text, isText, rfl⟩ := Option.map_eq_some_iff.mp found
        obtain ⟨rfl, visible⟩ := valueText?_eq_some_iff.mp isText
        exact ⟨text, others, rfl, visible, read⟩

/-- A call names one address at most. -/
theorem Call.names_inj
    {call : Call} {first second : Network.Address}
    (namesFirst : call.Names first)
    (namesSecond : call.Names second) :
    first = second := by
  obtain ⟨text, found, read⟩ := (call.names_iff first).mp namesFirst
  obtain ⟨_, foundToo, readToo⟩ := (call.names_iff second).mp namesSecond
  cases found.symm.trans foundToo
  exact Option.some.inj (read.symm.trans readToo)

/-- A call names an address that is given as its text. -/
theorem Call.names_display
    (address : Network.Address) (others : List Bytes) (entries : List Entry) :
    Call.Names ⟨Bytes.ofText address.display :: others, entries⟩ address := by
  have letter {letter : Char} (present : letter ∈ address.display.toList) :=
    Network.Address.isLetter_of_mem_display present
  have point : '.'.toNat = 46 ∧ 'f'.toNat = 102 := by decide
  refine ⟨address.display, others, rfl, ?_, ?_⟩
  · intro byte spelled
    rw [Bytes.ofText_eq_flatMap] at spelled
    obtain ⟨spelledLetter, present, isByte⟩ := List.mem_flatMap.mp spelled
    obtain ⟨low, high⟩ := letter present
    rcases Bytes.utf8EncodeChar_cases spelledLetter with ⟨-, one⟩ | ⟨large, -⟩ | ⟨large, -⟩ |
      ⟨large, -⟩
    · rw [one, List.mem_singleton] at isByte
      left
      rw [isByte, UInt8.le_iff_toNat_le, UInt8.le_iff_toNat_le, UInt8.toNat_ofNat',
        Nat.mod_eq_of_lt (by omega)]
      exact ⟨by change 32 ≤ _; omega, by change _ ≤ 126; omega⟩
    all_goals omega
  · have solid : ∀ letter ∈ address.display.toList, Text.isBlank letter = false := by
      intro spelled present
      obtain ⟨low, high⟩ := letter present
      exact Text.isBlank_of_visible (by omega) (by omega)
    rw [Text.trim, Text.trimLetters_eq_self solid, String.ofList_toList]
    exact address.read?_display

/-! ## One call -/

/-- The check lets the trusted calls through and denies all others. -/
theorem authorize_cases (server : Server) (call : Call) :
    (server.Trusts call ∧ authorize server.subnet call = .ok ()) ∨
      (¬server.Trusts call ∧ ∃ reason, authorize server.subnet call = .error (.denied reason)) := by
  unfold authorize Server.Trusts
  cases server.subnet with
  | none => exact Or.inl ⟨nofun, rfl⟩
  | some subnet =>
      have trusts : (∀ given, some subnet = some given ->
          ∃ address, call.Names address ∧ given.Covers address) ↔
            ∃ address, call.Names address ∧ subnet.Covers address :=
        ⟨fun all => all subnet rfl, fun member given same => Option.some.inj same ▸ member⟩
      rw [trusts]
      simp only [call.names_iff]
      cases call.address? with
      | none => exact Or.inr ⟨by simp, _, rfl⟩
      | some text =>
          dsimp only
          cases read : Network.Address.read? text with
          | none => exact Or.inr ⟨by simp [read], _, rfl⟩
          | some address =>
              dsimp only
              cases member : subnet.contains address with
              | true =>
                  have covered := (subnet.contains_iff_covers address).mp member
                  exact Or.inl ⟨⟨address, ⟨text, rfl, read⟩, covered⟩, rfl⟩
              | false =>
                  have apart := mt (subnet.contains_iff_covers address).mpr (by simp [member])
                  exact Or.inr ⟨by simp [read, apart], _, rfl⟩

instance (server : Server) (call : Call) : Decidable (server.Trusts call) :=
  decidable_of_iff (authorize server.subnet call = .ok ()) <| by
    rcases authorize_cases server call with ⟨trusted, passed⟩ | ⟨untrusted, reason, denied⟩
    · exact iff_of_true passed trusted
    · exact iff_of_false (by simp [denied]) untrusted

namespace Server

/-- What a server does with the entries of a call once it is let through. -/
def perform (server : Server) (now : Int64) (state : Service.State) (call : Call) :
    Service.State × Except CallError Unit :=
  let (changed, result) :=
    server.service.update state now (call.entries.map Entry.toMetric) (call.address?.getD "")
  (changed, result.mapError ofUpdateError)

theorem handle_of_trusts
    {server : Server} {call : Call}
    (trusted : server.Trusts call)
    (now : Int64) (state : Service.State) :
    server.handle now state call = server.perform now state call := by
  rcases authorize_cases server call with ⟨-, passed⟩ | ⟨untrusted, -⟩
  · rw [handle, passed, perform]
    dsimp only
    split <;> simp_all [Except.mapError]
  · exact absurd trusted untrusted

theorem handle_of_not_trusts
    {server : Server} {call : Call}
    (untrusted : ¬server.Trusts call)
    (now : Int64) (state : Service.State) :
    ∃ reason, server.handle now state call = (state, .error (.denied reason)) := by
  rcases authorize_cases server call with ⟨trusted, -⟩ | ⟨-, reason, denied⟩
  · exact absurd trusted untrusted
  · exact ⟨reason, by rw [handle, denied]⟩

/-! ## Runs of calls -/

/-- Handles calls in order, each at its time. -/
def serve (server : Server) (state : Service.State) :
    List (Int64 × Call) -> Service.State × List (Except CallError Unit)
  | [] => (state, [])
  | (now, call) :: rest =>
      let (changed, answer) := server.handle now state call
      let (final, answers) := server.serve changed rest
      (final, answer :: answers)

/-- The calls of a run that a server trusts. -/
def trustedOf (server : Server) (calls : List (Int64 × Call)) : List (Int64 × Call) :=
  calls.filter fun call => server.Trusts call.2

/-- A run with its answers is the run of the trusted calls with theirs, and denials between. -/
structure Denies (server : Server) (state : Service.State) (calls : List (Int64 × Call)) :
    Prop where
  /-- Each call has an answer. -/
  answered : (server.serve state calls).2.length = calls.length
  /-- The trusted calls alone lead to the same state. -/
  changed : (server.serve state calls).1 = (server.serve state (server.trustedOf calls)).1
  /-- The trusted calls are answered as they would be alone. -/
  trusted : ((calls.zip (server.serve state calls).2).filter
      fun entry => server.Trusts entry.1.2).map Prod.snd =
    (server.serve state (server.trustedOf calls)).2
  /-- All other calls are denied. -/
  denied : ∀ entry ∈ calls.zip (server.serve state calls).2, ¬server.Trusts entry.1.2 ->
    ∃ reason, entry.2 = .error (.denied reason)

/-- Any run of calls is one of trusted calls with denials between them. -/
theorem denies (server : Server) (state : Service.State) (calls : List (Int64 × Call)) :
    server.Denies state calls := by
  induction calls generalizing state with
  | nil => exact ⟨rfl, rfl, rfl, nofun⟩
  | cons first rest inductionHypothesis =>
      obtain ⟨now, call⟩ := first
      by_cases trusts : server.Trusts call
      · have next := inductionHypothesis (server.handle now state call).1
        refine ⟨?_, ?_, ?_, ?_⟩
        · simp [serve, next.answered]
        · simp [serve, trustedOf, trusts, next.changed]
        · simp [serve, trustedOf, trusts, next.trusted]
        · rintro entry (_ | ⟨_, later⟩) untrusted
          · exact absurd trusts untrusted
          · exact next.denied entry later untrusted
      · obtain ⟨reason, denied⟩ := handle_of_not_trusts trusts now state
        have next := inductionHypothesis state
        refine ⟨?_, ?_, ?_, ?_⟩
        · simp [serve, denied, next.answered]
        · simp [serve, denied, trustedOf, trusts, next.changed]
        · simp [serve, denied, trustedOf, trusts, next.trusted]
        · simp only [serve, denied, List.zip_cons_cons]
          rintro entry (_ | ⟨_, later⟩) untrusted
          · exact ⟨reason, rfl⟩
          · exact next.denied entry later untrusted

/--
A call reaches the service if it is trusted; otherwise it is denied and changes nothing.  In a run,
the trusted calls are answered, and change the state, as if they had been made alone, and all others
are denied.  Without a subnet every call is trusted; with one, a call that names an address is
trusted exactly when the subnet covers the address, a call that names none is not, and every address
can be named by its text.
-/
theorem only_trusted_calls_reach_service (server : Server) :
    (∀ now state call, server.Trusts call ->
      server.handle now state call = server.perform now state call) ∧
      (∀ now state call, ¬server.Trusts call ->
        ∃ reason, server.handle now state call = (state, .error (.denied reason))) ∧
      (∀ state calls, server.Denies state calls) ∧
      (server.subnet = none -> ∀ call, server.Trusts call) ∧
      ∀ subnet, server.subnet = some subnet ->
        (∀ call, (∀ address, ¬call.Names address) -> ¬server.Trusts call) ∧
          (∀ call address, call.Names address ->
            (server.Trusts call ↔ subnet.Covers address)) ∧
          ∀ address others entries,
            Call.Names ⟨Bytes.ofText address.display :: others, entries⟩ address := by
  refine ⟨fun now state call trusted => handle_of_trusts trusted now state,
    fun now state call untrusted => handle_of_not_trusts untrusted now state, server.denies, ?_, ?_⟩
  · intro missing call subnet found
    rw [missing] at found
    cases found
  · intro subnet found
    refine ⟨?_, ?_, Call.names_display⟩
    · intro call nameless trusts
      obtain ⟨address, names, -⟩ := trusts subnet found
      exact nameless address names
    · intro call address names
      constructor
      · intro trusts
        obtain ⟨other, namesOther, covers⟩ := trusts subnet found
        rwa [Call.names_inj names namesOther]
      · intro covers given same
        cases found.symm.trans same
        exact ⟨address, names, covers⟩

/-- The long form of an address is no member of a subnet that covers the short one. -/
example :
    let subnet : Network.Subnet := .v4 0x0a000001 8 (by decide)
    authorize (some subnet) ⟨[Bytes.ofText " 10.255.0.7 "], []⟩ = .ok () ∧
      authorize (some subnet) ⟨[Bytes.ofText "::ffff:10.255.0.7"], []⟩ =
        .error (.denied "ip not allowed") := by
  decide +kernel

end Server
end Rpc
end Telemetry
