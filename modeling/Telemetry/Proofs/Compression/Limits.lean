import Telemetry.Proofs.Compression.Gzip

/-!
# Reading under a limit

Inflating only ever adds to its output, so a reader that wants less stops at a
front part of what another one gets that wants more.  What is read of a member
is therefore a front part of one and the same content, and a limit decides no
more than whether that content is handed over or refused.
-/

namespace Telemetry
namespace Compression

/-! ## Output only grows -/

/-- One output is the front part of another one. -/
def Begins (front whole : ByteArray) : Prop :=
  Gzip.bytesOf front <+: Gzip.bytesOf whole

namespace Begins

theorem refl (output : ByteArray) : Begins output output :=
  List.prefix_refl _

theorem trans
    {front middle whole : ByteArray}
    (first : Begins front middle)
    (second : Begins middle whole) :
    Begins front whole :=
  List.IsPrefix.trans first second

theorem push (output : ByteArray) (byte : UInt8) : Begins output (output.push byte) :=
  ⟨[byte], by simp [Gzip.bytesOf]⟩

theorem appendBytes (output : ByteArray) (bytes : Bytes) :
    Begins output (appendBytes output bytes) :=
  ⟨bytes, (bytesOf_appendBytes output bytes).symm⟩

theorem copyBack (distance length : Nat) (output : ByteArray) :
    Begins output (copyBack distance length output) := by
  induction length generalizing output with
  | zero => exact refl output
  | succ length inductionHypothesis => exact (push output _).trans (inductionHypothesis _)

theorem size_le
    {front whole : ByteArray}
    (begins : Begins front whole) :
    front.size ≤ whole.size :=
  begins.length_le

/-- As far as an output reaches, it has the bytes of what it is the front part of. -/
theorem extract_eq
    {front whole : ByteArray} {count : Nat}
    (begins : Begins front whole)
    (reaches : count ≤ front.size) :
    front.extract 0 count = whole.extract 0 count := by
  obtain ⟨rest, whole_eq⟩ := begins
  have front_eq : (Gzip.bytesOf front).take count = (Gzip.bytesOf whole).take count := by
    rw [← whole_eq]
    exact (List.take_append_of_le_length reaches).symm
  simpa [ByteArray.ext_iff, Gzip.bytesOf, ← Array.toList_inj] using front_eq

end Begins

/-- What a step comes to that adds to an output: it ends or goes on with more output, and it never
ends for having enough. -/
inductive Adds (output : ByteArray) : Progress -> Prop
  | finished {grown : ByteArray} (rest : Bytes) (begins : Begins output grown) :
      Adds output (.ended ⟨grown, .finished rest⟩)
  | failed {grown : ByteArray} (trouble : Trouble) (begins : Begins output grown) :
      Adds output (.ended ⟨grown, .failed trouble⟩)
  | ongoing {grown : ByteArray} (phase : Phase) (bits : Bits) (begins : Begins output grown) :
      Adds output (.ongoing phase bits grown)

theorem adds_symbolStep (isLast : Bool) (literals distances : PrefixCode) (bits : Bits)
    (output : ByteArray) :
    Adds output (symbolStep isLast literals distances bits output) := by
  unfold symbolStep
  split
  · exact .failed _ (.refl output)
  · split
    · exact .ongoing _ _ (.push output _)
    · split
      · split
        · exact .finished _ (.refl output)
        · exact .ongoing _ _ (.refl output)
      · split
        · exact .failed _ (.refl output)
        · exact .ongoing _ _ (.copyBack _ _ output)

theorem adds_storedStep (isLast : Bool) (bits : Bits) (output : ByteArray) :
    Adds output (storedStep isLast bits output) := by
  unfold storedStep
  split
  · exact .failed _ (.refl output)
  · dsimp only
    split
    · exact .failed _ (.appendBytes output _)
    · split
      · exact .finished _ (.appendBytes output _)
      · exact .ongoing _ _ (.appendBytes output _)

theorem adds_headerStep (bits : Bits) (output : ByteArray) :
    Adds output (headerStep bits output) := by
  unfold headerStep
  split
  · exact .failed _ (.refl output)
  · dsimp only
    split
    · exact adds_storedStep _ _ output
    · split
      · exact .ongoing _ _ (.refl output)
      · split
        · split
          · exact .failed _ (.refl output)
          · exact .ongoing _ _ (.refl output)
        · exact .failed _ (.refl output)

/-- A step adds to the output. -/
theorem adds_inflateStep (phase : Phase) (bits : Bits) (output : ByteArray) :
    Adds output (inflateStep phase bits output) := by
  cases phase with
  | header => exact adds_headerStep bits output
  | symbols isLast literals distances => exact adds_symbolStep isLast literals distances bits output

/-- Inflating adds to the output, and it ends for having enough only if there is as much as was
wanted. -/
theorem inflateSteps_spec (wanted fuel : Nat) (phase : Phase) (bits : Bits)
    (output : ByteArray) :
    let inflated := inflateSteps wanted fuel phase bits output
    Begins output inflated.output ∧
      (inflated.ending = .enough -> wanted ≤ inflated.output.size) := by
  induction fuel generalizing phase bits output with
  | zero => exact ⟨.refl output, fun enough => by cases enough⟩
  | succ fuel inductionHypothesis =>
      rw [inflateSteps]
      split
      next reached => exact ⟨.refl output, fun _ => reached⟩
      next =>
        have adds := adds_inflateStep phase bits output
        generalize inflateStep phase bits output = progress at adds
        cases adds with
        | finished rest begins => exact ⟨begins, fun enough => by cases enough⟩
        | failed trouble begins => exact ⟨begins, fun enough => by cases enough⟩
        | ongoing phase bits begins =>
            obtain ⟨further, sufficient⟩ := inductionHypothesis phase bits _
            exact ⟨begins.trans further, sufficient⟩

/-! ## Readers that want less -/

/-- A reader has stopped early before another one: it has all the output that it wanted, and the
other one has it too. -/
structure StoppedBefore (wanted : Nat) (early late : Inflated) : Prop where
  ending : early.ending = .enough
  wanted_le : wanted ≤ early.output.size
  begins : Begins early.output late.output

/-- A reader that wants less does the same as one that wants more or stops early. -/
theorem inflateSteps_less
    {less more : Nat}
    (order : less ≤ more)
    (fuel : Nat) (phase : Phase) (bits : Bits) (output : ByteArray) :
    inflateSteps less fuel phase bits output = inflateSteps more fuel phase bits output ∨
      StoppedBefore less (inflateSteps less fuel phase bits output)
        (inflateSteps more fuel phase bits output) := by
  induction fuel generalizing phase bits output with
  | zero => exact .inl rfl
  | succ fuel inductionHypothesis =>
      by_cases reached : less ≤ output.size
      · have stopped : inflateSteps less (fuel + 1) phase bits output = ⟨output, .enough⟩ := by
          rw [inflateSteps, if_pos reached]
        rw [stopped]
        exact .inr ⟨rfl, reached, (inflateSteps_spec more (fuel + 1) phase bits output).1⟩
      · have further : ¬more ≤ output.size := fun far => reached (Nat.le_trans order far)
        rw [inflateSteps, inflateSteps, if_neg reached, if_neg further]
        cases inflateStep phase bits output with
        | ended inflated => exact .inl rfl
        | ongoing phase bits grown => exact inductionHypothesis phase bits grown

theorem inflate_less
    {less more : Nat}
    (order : less ≤ more)
    (body : Bytes) :
    inflate less body = inflate more body ∨
      StoppedBefore less (inflate less body) (inflate more body) :=
  inflateSteps_less order _ _ _ _

theorem wanted_le_of_enough
    {wanted : Nat} {body : Bytes}
    (enough : (inflate wanted body).ending = .enough) :
    wanted ≤ (inflate wanted body).output.size :=
  (inflateSteps_spec wanted _ _ _ _).2 enough

/-- A reader that has come to the end of the data before having what it wanted comes to the same
end whatever it wants more than that. -/
theorem inflate_eq_of_finished
    {wanted other : Nat} {body rest : Bytes}
    (finished : (inflate wanted body).ending = .finished rest)
    (less : (inflate wanted body).output.size < other) :
    inflate other body = inflate wanted body := by
  rcases Nat.le_total other wanted with order | order
  · rcases inflate_less order body with same | stopped
    · exact same
    · exact absurd (Nat.le_trans stopped.wanted_le stopped.begins.size_le) (Nat.not_le.mpr less)
  · rcases inflate_less order body with same | stopped
    · exact same.symm
    · rw [stopped.ending] at finished
      cases finished

namespace Gzip

/-! ## Members -/

theorem handedOver_le (inflated : Inflated) : handedOver inflated ≤ inflated.output.size := by
  unfold handedOver windowSize
  split
  · omega
  · exact Nat.le_refl _

theorem handedOver_of_finished
    {inflated : Inflated} {rest : Bytes}
    (finished : inflated.ending = .finished rest) :
    handedOver inflated = inflated.output.size := by
  rw [handedOver, finished]

theorem handedOver_of_enough
    {inflated : Inflated}
    (enough : inflated.ending = .enough) :
    handedOver inflated = inflated.output.size := by
  rw [handedOver, enough]

theorem extract_of_size_le
    {output : ByteArray} {count : Nat}
    (all : output.size ≤ count) :
    output.extract 0 count = output := by
  have whole : (bytesOf output).take count = bytesOf output := List.take_of_length_le all
  simpa [ByteArray.ext_iff, bytesOf, ← Array.toList_inj] using whole

theorem extract_extract_of_le
    (output : ByteArray) {count other : Nat}
    (order : other ≤ count) :
    (output.extract 0 count).extract 0 other = output.extract 0 other := by
  simp [ByteArray.ext_iff, Nat.min_eq_left order]

/-- Some bytes of a body have been read: there are as many, or the data ends before with a right
trailer. -/
inductive Reads (count : Nat) (body : Bytes) : ByteArray -> Prop
  | front (handed : count ≤ handedOver (inflate (wantedFor (count - 1)) body)) :
      Reads count body ((inflate (wantedFor (count - 1)) body).output.extract 0 count)
  | whole {rest content : Bytes}
      (less : (inflate (wantedFor (count - 1)) body).output.size < count)
      (finished : (inflate (wantedFor (count - 1)) body).ending = .finished rest)
      (right : checkTrailer (bytesOf (inflate (wantedFor (count - 1)) body).output) rest =
        .ok content) :
      Reads count body (inflate (wantedFor (count - 1)) body).output

theorem reads_of_read
    {count : Nat} {member : Bytes} {output : ByteArray}
    (reads : read count member = .ok output) :
    ∃ body, skipHeader member = .ok body ∧ Reads count body output := by
  unfold read at reads
  cases skipped : skipHeader member with
  | error error =>
      rw [skipped] at reads
      cases reads
  | ok body =>
      rw [skipped] at reads
      refine ⟨body, rfl, ?_⟩
      dsimp only at reads
      split at reads
      next handed =>
        cases reads
        exact .front handed
      next short =>
        cases ending : (inflate (wantedFor (count - 1)) body).ending with
        | finished rest =>
            rw [handedOver_of_finished ending] at short
            rw [ending] at reads
            dsimp only at reads
            cases checked :
                checkTrailer (bytesOf (inflate (wantedFor (count - 1)) body).output) rest with
            | error error =>
                rw [checked] at reads
                cases reads
            | ok content =>
                rw [checked] at reads
                cases reads
                exact .whole (Nat.lt_of_not_le short) ending checked
        | enough =>
            have enough := Nat.le_trans (le_wantedFor count) (wanted_le_of_enough ending)
            rw [handedOver_of_enough ending] at short
            exact absurd enough short
        | failed trouble =>
            rw [ending] at reads
            cases trouble <;> cases reads

theorem read_of_reads
    {count : Nat} {member body : Bytes} {output : ByteArray}
    (skipped : skipHeader member = .ok body)
    (reads : Reads count body output) :
    read count member = .ok output := by
  rw [read, skipped]
  cases reads with
  | front handed => exact if_pos handed
  | whole less finished right =>
      have short : ¬count ≤ handedOver (inflate (wantedFor (count - 1)) body) := by
        rw [handedOver_of_finished finished]
        exact Nat.not_le.mpr less
      simp only [if_neg short, finished, right]
      rfl

namespace Reads

variable {count other : Nat} {body : Bytes} {output : ByteArray}

theorem size_le (reads : Reads count body output) : output.size ≤ count := by
  cases reads with
  | front handed =>
      rw [ByteArray.size_extract]
      exact Nat.le_trans (Nat.sub_le _ _) (Nat.min_le_left _ _)
  | whole less finished right => exact Nat.le_of_lt less

/-- Fewer bytes that are handed over are read, too. -/
theorem front_of_le
    (order : other ≤ count)
    (handed : other ≤ handedOver (inflate (wantedFor (count - 1)) body)) :
    Reads other body ((inflate (wantedFor (count - 1)) body).output.extract 0 other) := by
  have wanted : wantedFor (other - 1) ≤ wantedFor (count - 1) := by
    unfold wantedFor
    gcongr
  rcases inflate_less wanted body with same | stopped
  · rw [← same] at handed ⊢
    exact .front handed
  · have reached := Nat.le_trans (le_wantedFor other) stopped.wanted_le
    rw [← stopped.begins.extract_eq reached]
    refine .front ?_
    rw [handedOver_of_enough stopped.ending]
    exact reached

/-- What is read of a body is the front part of one content: another number of bytes gives as much
of it, if there are as many or the content has been read as a whole. -/
theorem with_other_count
    (reads : Reads count body output)
    (known : other ≤ count ∨ output.size < count) :
    Reads other body (output.extract 0 other) := by
  cases reads with
  | front handed =>
      have long := Nat.le_trans handed (handedOver_le _)
      have order : other ≤ count := by
        rcases known with order | less
        · exact order
        · rw [ByteArray.size_extract, Nat.min_eq_left long] at less
          exact absurd less (Nat.lt_irrefl count)
      rw [extract_extract_of_le _ order]
      exact front_of_le order (Nat.le_trans order handed)
  | whole less finished right =>
      rcases Nat.lt_or_ge (inflate (wantedFor (count - 1)) body).output.size other with
        longer | shorter
      · have same := inflate_eq_of_finished finished
          (Nat.lt_of_lt_of_le longer (le_wantedFor other))
        rw [extract_of_size_le (Nat.le_of_lt longer), ← same]
        rw [← same] at finished right longer
        exact .whole longer finished right
      · refine front_of_le (Nat.le_of_lt (Nat.lt_of_le_of_lt shorter less)) ?_
        rw [handedOver_of_finished finished]
        exact shorter

end Reads

/-- Reading under a limit asks for one byte more than the limit, and refuses an output that has
it. -/
theorem decode_eq_ok_iff (limit : Nat) (member content : Bytes) :
    decode limit member = .ok content ↔
      ∃ output, read (askedFor limit) member = .ok output ∧ output.size ≤ limit ∧
        content = bytesOf output := by
  rw [decode]
  cases read (askedFor limit) member with
  | error error => simp
  | ok output =>
      by_cases large : limit < output.size
      · simp [large]
      · simp [large, Nat.not_lt.mp large, eq_comm]

/-- A member of which some bytes have been read is decoded under a limit that asks for no more than
these, or under any if that was all. -/
theorem decode_of_reads
    {count limit : Nat} {member body : Bytes} {output : ByteArray}
    (skipped : skipHeader member = .ok body)
    (reads : Reads count body output)
    (known : askedFor limit ≤ count ∨ output.size < count)
    (counted : output.size ≤ countLimit ∨ limit < countLimit) :
    decode limit member =
      if output.size ≤ limit then .ok (bytesOf output) else .error (.tooLarge limit) := by
  have again := read_of_reads skipped (reads.with_other_count known)
  rw [decode, again]
  dsimp only
  rw [ByteArray.size_extract]
  by_cases kept : output.size ≤ limit
  · have all : output.size ≤ askedFor limit := by
      unfold askedFor
      omega
    rw [extract_of_size_le all, if_neg (by omega)]
    exact (if_pos kept).symm
  · have one : askedFor limit = limit + 1 := by
      unfold askedFor
      omega
    rw [one, if_pos (by omega)]
    exact (if_neg kept).symm

/-- A content that was read with some limit is read with every limit that it keeps to, and is
refused with every other one. -/
theorem decode_with_other_limit
    {limit : Nat} {member content : Bytes}
    (decoded : decode limit member = .ok content) :
    content.length ≤ limit ∧
      ∀ other, decode other member =
        if content.length ≤ other then .ok content else .error (.tooLarge other) := by
  obtain ⟨output, read_eq, fits, rfl⟩ := (decode_eq_ok_iff limit member content).mp decoded
  obtain ⟨body, skipped, reads⟩ := reads_of_read read_eq
  have counted : output.size ≤ countLimit :=
    Nat.le_trans reads.size_le (Nat.min_le_right _ _)
  refine ⟨fits, fun other => decode_of_reads skipped reads ?_ (.inl counted)⟩
  unfold askedFor
  omega

/-- A member whose content repeats two letters by a copy. -/
def repeatedMember : Bytes :=
  header ++ [0x4b, 0x4c, 0x4a, 0x44, 0x83, 0x00] ++ [0x68, 0x86, 0xe9, 0x0a, 18, 0, 0, 0]

theorem repeatedMember_with_other_limits :
    let content := (List.replicate 9 [97, 98]).flatten
    decode 18 repeatedMember = .ok content ∧
      decode 17 repeatedMember = .error (.tooLarge 17) ∧
      decode 0xffffffffffffffff repeatedMember = .ok content := by
  intro content
  have decoded : decode 18 repeatedMember = .ok content := by decide +kernel
  obtain ⟨-, others⟩ := decode_with_other_limit decoded
  exact ⟨decoded, (others 17).trans (if_neg (by decide)), (others _).trans (if_pos (by decide))⟩

end Gzip

/-! ## Members that are made -/

/-- A way to make blocks of a content is right if they can be inflated to it: a reader with enough
room gets the content and leaves what follows the blocks. -/
def Deflates (deflate : Bytes -> Bytes) : Prop :=
  ∀ content rest, ∃ wanted, content.length < wanted ∧
    inflate wanted (deflate content ++ rest) =
      ⟨appendBytes ByteArray.empty content, .finished rest⟩

theorem deflates_storedBlocks : Deflates storedBlocks :=
  fun content rest =>
    ⟨content.length + 1, Nat.lt_succ_self _, inflate_storedBlocks (Nat.lt_succ_self _) rest⟩

/-- How much room a reader has beyond what it gets does not matter. -/
theorem Deflates.inflate_eq
    {deflate : Bytes -> Bytes} {wanted : Nat} {content : Bytes}
    (deflates : Deflates deflate)
    (more : content.length < wanted)
    (rest : Bytes) :
    inflate wanted (deflate content ++ rest) =
      ⟨appendBytes ByteArray.empty content, .finished rest⟩ := by
  obtain ⟨room, -, inflated⟩ := deflates content rest
  have finished : (inflate room (deflate content ++ rest)).ending = .finished rest := by
    rw [inflated]
  have less : (inflate room (deflate content ++ rest)).output.size < wanted := by
    rw [inflated]
    simpa using more
  rw [inflate_eq_of_finished finished less, inflated]

namespace Gzip

/-- A content comes back from its member under every limit that it keeps to, and is refused under
every other one. -/
theorem decode_member
    {deflate : Bytes -> Bytes} {limit : Nat}
    (deflates : Deflates deflate)
    (counted : limit < countLimit)
    (content : Bytes) :
    decode limit (member (deflate content) content) =
      if content.length ≤ limit then .ok content else .error (.tooLarge limit) := by
  have skipped : skipHeader (member (deflate content) content) =
      .ok (deflate content ++ trailer content) := by
    rw [member, List.append_assoc]
    exact skipHeader_header _
  have bytes : bytesOf (appendBytes ByteArray.empty content) = content := by
    rw [bytesOf_appendBytes]
    rfl
  have size : (appendBytes ByteArray.empty content).size = content.length := by simp
  have less : content.length < content.length + 1 := Nat.lt_succ_self _
  have inflated := deflates.inflate_eq
    (Nat.lt_of_lt_of_le less (le_wantedFor (content.length + 1))) (trailer content)
  have short : (inflate (wantedFor (content.length + 1 - 1))
      (deflate content ++ trailer content)).output.size < content.length + 1 := by
    rw [inflated, size]
    exact less
  have right : checkTrailer (bytesOf (inflate (wantedFor (content.length + 1 - 1))
      (deflate content ++ trailer content)).output) (trailer content) = .ok content := by
    rw [inflated, bytes]
    exact checkTrailer_trailer content
  have whole := Reads.whole short (by rw [inflated]) right
  rw [inflated] at whole
  rw [decode_of_reads skipped whole (.inr (size ▸ less)) (.inr counted), size, bytes]

/-- A content within the limit comes back from the member that it is stored in. -/
theorem decode_encode
    {limit : Nat} {content : Bytes}
    (counted : limit < countLimit)
    (fits : content.length ≤ limit) :
    decode limit (encode content) = .ok content :=
  (decode_member deflates_storedBlocks counted content).trans (if_pos fits)

end Gzip
end Compression
end Telemetry
