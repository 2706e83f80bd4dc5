/-
Routes with a `'#'`.

The loop over the path goes on in the pattern as it goes on in the request, behind a
`'#'` too.  Where the path of the request ends it takes the next byte of the pattern for
the end of the pattern or refuses, and nothing keeps it from going beyond that end.
-/

import EtherSiaStack.RequestChecks
import EtherSiaStack.Library.Inspection

namespace EtherSiaStack

open ByteMemory Inspector

namespace HTTPServer

/-! ### The reads of the pattern -/

/-- The loop of `matchPath`, as a program that reads the pattern. -/
def inspectPath (packet : Memory) (pathPtr : Nat) : Nat → Nat → Bool → Inspector PathMatch
  | 0, _, _ => pure .usedUp
  | remaining + 1, index, allowAny => do
      let match_ ← read index
      if endsPath (packet (pathPtr + index)) then
        if match_ = 0 then pure (.bothEnded index) else pure .refused
      else
        let allowAny := allowAny || match_ = 0x23
        if match_ = 0x3F ∨ allowAny = true then
          inspectPath packet pathPtr remaining (index + 1) allowAny
        else if packet (pathPtr + index) ≠ match_ then pure .refused
        else inspectPath packet pathPtr remaining (index + 1) allowAny

section Comparison

variable {packet : Memory} {pathPtr : Nat} {path : FlashString}

theorem inspectPath_value (remaining index : Nat) (allowAny : Bool) :
    (inspectPath packet pathPtr remaining index allowAny path.read).value =
      some (matchPath packet pathPtr path remaining index allowAny) := by
  induction remaining generalizing index allowAny with
  | zero => rfl
  | succ remaining ih =>
      rw [inspectPath, matchPath, bind_value_of_some (read_value _ _)]
      dsimp only
      split
      · split <;> rfl
      · split
        · exact ih _ _
        · split
          · rfl
          · exact ih _ _

/-- The loop reads the bytes of the pattern that it comes to. -/
theorem within_inspectPath_iff {bound : Nat} (remaining first : Nat) (allowAny : Bool)
    (allows : allowAny = true ↔ ∃ before < first, path.read before = 0x23) :
    Within bound (inspectPath packet pathPtr remaining first allowAny) path.read ↔
      ∀ index, first ≤ index → index < first + remaining →
        (∀ before, first ≤ before → before < index →
          Agrees packet pathPtr path before) → index < bound := by
  induction remaining generalizing first allowAny with
  | zero =>
      refine iff_of_true (within_pure _ _ _) fun index lower upper => ?_
      omega
  | succ remaining ih =>
      have ihNext := ih (first + 1) _ (allowAny_next allows)
      have first_lt : Within bound (read first) path.read ↔ first < bound := within_read
      -- the places from `first` on are `first` and, if it agrees, those behind it
      have parts : (∀ index, first ≤ index → index < first + (remaining + 1) →
          (∀ before, first ≤ before → before < index →
            Agrees packet pathPtr path before) → index < bound) ↔
          first < bound ∧ (Agrees packet pathPtr path first →
            ∀ index, first + 1 ≤ index → index < first + 1 + remaining →
              (∀ before, first + 1 ≤ before → before < index →
                Agrees packet pathPtr path before) → index < bound) := by
        constructor
        · intro reads
          refine ⟨reads first le_rfl (by omega) fun _ _ _ => by omega, ?_⟩
          intro agrees index lower upper passed
          refine reads index (by omega) (by omega) fun before notBefore isBefore => ?_
          rcases Nat.eq_or_lt_of_le notBefore with rfl | behind
          · exact agrees
          · exact passed before behind isBefore
        · rintro ⟨here, later⟩ index lower upper passed
          rcases Nat.eq_or_lt_of_le lower with rfl | behind
          · exact here
          · exact later (passed first le_rfl behind) index behind (by omega)
              fun before notBefore isBefore => passed before (by omega) isBefore
      rw [parts, ← ihNext, inspectPath, within_bind_of_some (read_value _ _), first_lt]
      apply and_congr_right
      intro _
      by_cases ends : endsPath (packet (pathPtr + first)) = true
      · rw [if_pos ends]
        refine iff_of_true ?_ fun agrees => absurd agrees (not_agrees_of_endsPath ends)
        split <;> exact within_pure _ _ _
      · rw [if_neg ends]
        have turn := agrees_iff_turn allows (Bool.eq_false_iff.mpr ends)
        dsimp only
        split
        · rename_i wild
          exact (imp_iff_right (turn.mpr (Or.inl wild))).symm
        · rename_i plain
          split
          · rename_i differs
            exact iff_of_true (within_pure _ _ _) fun agrees =>
              absurd agrees fun agrees => (turn.mp agrees).elim plain differs
          · rename_i same
            exact (imp_iff_right (turn.mpr (Or.inr (not_not.mp same)))).symm

end Comparison

/-! ### Requests that begin as the pattern does -/

/-- The request has the method and a path of so many characters, which ends inside the
payload. -/
structure RequestPath (packet : Memory) (method : FlashString) (count : Nat) : Prop where
  hasMethod : HasMethod packet method
  characters : ∀ index < count, endsPath (packet (targetStart packet method + index)) = false
  ends : endsPath (packet (targetStart packet method + count)) = true
  inside : method.length + 1 + count < (TCPServer.payloadLength packet).toNat

/-- The pattern has its first `'#'` at this place, and the path of the request begins with
characters that match the part before it. -/
structure BeginsAs (packet : Memory) (method path : FlashString) (hash count : Nat) :
    Prop where
  inPattern : hash < path.length
  isHash : path.read hash = 0x23
  first : ∀ index < hash, path.read index ≠ 0x23
  long : hash ≤ count
  same : ∀ index < hash, path.read index = 0x3F ∨
    packet (targetStart packet method + index) = path.read index

section Wildcard

variable {packet : Memory} {method path : FlashString} {hash count : Nat}

theorem BeginsAs.agrees (begins : BeginsAs packet method path hash count)
    (requestPath : RequestPath packet method count) {index : Nat} (before : index < count) :
    Agrees packet (targetStart packet method) path index := by
  refine ⟨requestPath.characters index before, ?_⟩
  by_cases early : index < hash
  · exact (begins.same index early).imp_right Or.inr
  · exact Or.inr (Or.inl ⟨hash, Nat.le_of_not_lt early, begins.isHash⟩)

/-- The first place that does not agree is the end of the request's path. -/
theorem BeginsAs.stop_eq (begins : BeginsAs packet method path hash count)
    (requestPath : RequestPath packet method count) {stop : Nat}
    (passed : ∀ index < stop, Agrees packet (targetStart packet method) path index)
    (parts : ¬Agrees packet (targetStart packet method) path stop) : stop = count := by
  rcases Nat.lt_trichotomy stop count with early | same | late
  · exact absurd (begins.agrees requestPath early) parts
  · exact same
  · exact absurd (passed count late) (not_agrees_of_endsPath requestPath.ends)

/-- Such a path is taken exactly if the loop does not come to its end, or finds the pattern
over there. -/
theorem pathMatch_taken_iff (begins : BeginsAs packet method path hash count)
    (requestPath : RequestPath packet method count) :
    pathMatch packet method path ≠ .refused ↔
      comparedBytes packet method ≤ count ∨ path.read count = 0 := by
  have compared := pathMatch_compared packet method path
  cases left : pathMatch packet method path with
  | refused =>
      rw [left] at compared
      obtain ⟨stop, -, inside, passed, parts, notBoth⟩ := compared
      have isCount := begins.stop_eq requestPath
        (fun index before => passed index (Nat.zero_le _) before) parts
      rw [isCount] at inside notBoth
      refine iff_of_false (fun differs => differs rfl) ?_
      rintro (uncompared | isNul)
      · omega
      · exact notBoth ⟨requestPath.ends, isNul⟩
  | bothEnded stop =>
      rw [left] at compared
      obtain ⟨-, -, passed, bothEnd⟩ := compared
      have isCount := begins.stop_eq requestPath
        (fun index before => passed index (Nat.zero_le _) before) bothEnd.not_agrees
      rw [isCount] at bothEnd
      exact iff_of_true (by simp) (Or.inr bothEnd.2)
  | usedUp =>
      rw [left] at compared
      refine iff_of_true (by simp) (Or.inl ?_)
      by_contra comesTo
      exact not_agrees_of_endsPath requestPath.ends
        (compared count (Nat.zero_le _) (Nat.lt_of_not_le comesTo))

/-- The loop comes to the place behind the end of the pattern. -/
def Overruns (packet : Memory) (method path : FlashString) : Prop :=
  path.length + 1 < comparedBytes packet method ∧
    ∀ index ≤ path.length, Agrees packet (targetStart packet method) path index

theorem within_pattern_iff :
    Within (path.length + 1) (inspectPath packet (targetStart packet method)
      (comparedBytes packet method) 0 false) path.read ↔ ¬Overruns packet method path := by
  have none : false = true ↔ ∃ before < 0, path.read before = 0x23 :=
    iff_of_false Bool.false_ne_true fun ⟨before, isBefore, _⟩ =>
      absurd isBefore (Nat.not_lt_zero before)
  rw [within_inspectPath_iff _ _ _ none]
  constructor
  · rintro reads ⟨compared, passed⟩
    have inside := reads (path.length + 1) (Nat.zero_le _) (by omega)
      fun before _ isBefore => passed before (by omega)
    exact absurd inside (Nat.lt_irrefl _)
  · intro stops index _ upper passed
    by_contra beyond
    exact stops ⟨by omega, fun before isBefore => passed before (Nat.zero_le _) (by omega)⟩

end Wildcard

/-! ### One check -/

/-- A path that begins as the pattern does before its `'#'` is accepted whatever follows,
and the pattern is not read beyond its NUL. -/
structure WildcardSound (method path : FlashString) (randomNumber : UInt32)
    (server : HTTPServer) (ether : EtherSia) : Prop where
  accepts : ∀ hash count,
    RequestPath (request randomNumber server ether) method count →
      BeginsAs (request randomNumber server ether) method path hash count →
        (checkRequest method path randomNumber server ether).1 = true
  reads : HasMethod (request randomNumber server ether) method →
    Within (path.length + 1)
      (inspectPath (request randomNumber server ether)
        (targetStart (request randomNumber server ether) method)
        (comparedBytes (request randomNumber server ether) method) 0 false) path.read

/-- The `'#'` does what its documentation says exactly if the path of the request ends
where the byte of the pattern is its NUL, or behind the bytes that are compared, and the
loop is left before it comes beyond the pattern. -/
theorem wildcardSound_iff {method path : FlashString} {randomNumber : UInt32}
    {server : HTTPServer} {ether : EtherSia}
    (accepted : (TCPServer.havePacket server.socket randomNumber ether).1 = true) :
    WildcardSound method path randomNumber server ether ↔
      (∀ hash count, RequestPath (request randomNumber server ether) method count →
        BeginsAs (request randomNumber server ether) method path hash count →
          comparedBytes (request randomNumber server ether) method ≤ count ∨
            path.read count = 0) ∧
        (HasMethod (request randomNumber server ether) method →
          ¬Overruns (request randomNumber server ether) method path) := by
  constructor
  · rintro ⟨accepts, reads⟩
    refine ⟨fun hash count requestPath begins => ?_, fun hasMethod =>
      within_pattern_iff.mp (reads hasMethod)⟩
    have taken := accepts hash count requestPath begins
    exact (pathMatch_taken_iff begins requestPath).mp ((checkRequest_iff accepted).mp taken).2
  · rintro ⟨ends, stops⟩
    refine ⟨fun hash count requestPath begins => ?_, fun hasMethod =>
      within_pattern_iff.mpr (stops hasMethod)⟩
    exact (checkRequest_iff accepted).mpr ⟨requestPath.hasMethod,
      (pathMatch_taken_iff begins requestPath).mpr (ends hash count requestPath begins)⟩

/-- A segment with the request `GET / HTTP/1.0`. -/
def rootRequest : Frame :=
  exampleFrame 38 IP6_PROTO_TCP
    [0x10, 0, 0, 80, 0, 0, 0, 1, 0, 0, 0, 0, 0x50, 0x18, 2, 0, 0xc3, 0xc5, 0, 0,
      0x47, 0x45, 0x54, 0x20, 0x2f, 0x20, 0x48, 0x54, 0x54, 0x50, 0x2f, 0x31, 0x2e, 0x30,
      0x0d, 0x0a, 0x0d, 0x0a] (by decide)

def rootRequestReceived : EtherSia :=
  exampleStation.ether.accepted rootRequest

/-- `"/#"`. -/
def wildcardPath : FlashString :=
  .of [0x2f, 0x23] (by simp) (by simp)

/-- The pattern `"/on"` has no `'#'`, and the loop is left at its second character. -/
theorem wildcardSound_plain :
    WildcardSound methodGet examplePath 0 exampleServer rootRequestReceived := by
  refine (wildcardSound_iff (by decide +kernel)).mpr ⟨fun hash count _ begins => ?_,
    fun _ overruns => ?_⟩
  · have short : hash < 3 := begins.inPattern
    have isHash := begins.isHash
    interval_cases hash <;> exact absurd isHash (by decide)
  · have agrees := (overruns.2 1 (by decide)).1
    exact absurd agrees (by decide +kernel)

/-- The request for `"/"` is refused under the pattern `"/#"`. -/
theorem wildcard_refuses_empty_rest :
    ¬∀ (frame : Frame) (ether : EtherSia) (server : HTTPServer) (method path : FlashString),
      ether.Accepts frame →
        (TCPServer.havePacket server.socket 0 (ether.accepted frame)).1 = true →
          WildcardSound method path 0 server (ether.accepted frame) := by
  intro sound
  have accepts := (sound rootRequest exampleStation.ether exampleServer methodGet
    wildcardPath ⟨by decide, by decide +kernel⟩ (by decide +kernel)).accepts 1 1
    ⟨by decide +kernel, by decide +kernel, by decide +kernel, by decide +kernel⟩
    ⟨by decide, by decide, by decide, by decide, by decide +kernel⟩
  exact absurd accepts (by decide +kernel)

end HTTPServer

end EtherSiaStack
