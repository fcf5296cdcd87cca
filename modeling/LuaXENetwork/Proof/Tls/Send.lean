import LuaXENetwork.Proof.Socket.Sender
import LuaXENetwork.Tls.Send

/-! `CSSLClient::Send` sends everything or fails, unless the socket stops within a record. -/

namespace LuaXENetwork
open Library

def RecordFate.Whole (fate : RecordFate) : Prop := ∃ cipher, fate = .handed cipher (some cipher.length)

def RecordFate.cipher : RecordFate → Bytes
  | .handed cipher _ => cipher
  | _ => []

def RecordFate.takenBytes : RecordFate → Bytes
  | .handed cipher (some count) => cipher.take count
  | _ => []

def SentRecord.Refused {σ : Type} (sender : Sender σ) (record : SentRecord σ) : Prop :=
  match record.fate with
  | .unencrypted _ => True
  | .handed cipher _ => sender.Refuses record.socket cipher
  | .overflow => False

def SentRecord.CutShort {σ : Type} (sender : Sender σ) (record : SentRecord σ) : Prop :=
  sender.ClosesWithin record.socket record.fate.cipher

theorem SentRecord.refused_handed {σ : Type} {sender : Sender σ} {record : SentRecord σ} {cipher : Bytes}
    {taken : Option Nat} (fate : record.fate = .handed cipher taken) :
    record.Refused sender ↔ (sender.send record.socket cipher).1 = none := by
  rw [← Sender.refuses_iff, Refused, fate]

namespace SslClient

def Fits (tls : SslClient) (data : Bytes) : Prop :=
  tls.sizes.header + data.length + tls.sizes.trailer ≤ writeBufferSize

variable {σ : Type} {sender : Sender σ} {sound : σ → Prop}
  {encryptMessage : List Bytes → Bytes → Except UInt32 Bytes} {tls : SslClient}

structure Carried (sender : Sender σ) (tls : SslClient) (data : Bytes) (records : List (SentRecord σ))
    (s s' : SendState σ) : Prop where
  grown : s'.records = s.records ++ records
  whole : (records.map SentRecord.plain).flatten = data
  short : ∀ record ∈ records, record.plain.length ≤ maxChunk tls.sizes
  fits : ∀ record ∈ records, Fits tls record.plain
  answered : ∀ record ∈ records, ∃ cipher count, record.fate = .handed cipher (some count) ∧
    count ≤ cipher.length ∧ (sender.send record.socket cipher).1 = some count
  accepted : sender.accepted s'.socket =
    sender.accepted s.socket ++ (records.map fun record => record.fate.takenBytes).flatten

theorem Carried.append {first later : Bytes} {records records' : List (SentRecord σ)}
    {s s' s'' : SendState σ} (one : Carried sender tls first records s s')
    (rest : Carried sender tls later records' s' s'') :
    Carried sender tls (first ++ later) (records ++ records') s s'' where
  grown := by rw [rest.grown, one.grown, List.append_assoc]
  whole := by rw [List.map_append, List.flatten_append, one.whole, rest.whole]
  short record member := (List.mem_append.mp member).elim (one.short record) (rest.short record)
  fits record member := (List.mem_append.mp member).elim (one.fits record) (rest.fits record)
  answered record member := (List.mem_append.mp member).elim (one.answered record) (rest.answered record)
  accepted := by
    rw [rest.accepted, one.accepted, List.append_assoc, List.map_append, List.flatten_append]

inductive Ends (sender : Sender σ) (sound : σ → Prop) (tls : SslClient) (data : Bytes) (value : Int)
    (s : SendState σ) : SendEnd × SendState σ → Prop
  | carried {s' : SendState σ} (records : List (SentRecord σ)) (carried : Carried sender tls data records s s')
      (still : sound s'.socket) : Ends sender sound tls data value s (.returned value, s')
  | crashed {s' : SendState σ} (records : List (SentRecord σ)) (last : SentRecord σ)
      (grown : s'.records = s.records ++ (records ++ [last]))
      (accepted : ∀ record ∈ records, ¬ record.Refused sender) (overflows : last.fate = .overflow)
      (tooLarge : ¬ Fits tls last.plain) :
      Ends sender sound tls data value s (.crashed, s')
  | failed {s' : SendState σ} (records : List (SentRecord σ)) (last : SentRecord σ)
      (grown : s'.records = s.records ++ (records ++ [last])) (refused : last.Refused sender) :
      Ends sender sound tls data value s (.returned socketError, s')

theorem Carried.not_refused {data : Bytes} {records : List (SentRecord σ)} {s s' : SendState σ}
    (carried : Carried sender tls data records s s') {record : SentRecord σ} (member : record ∈ records) :
    ¬ record.Refused sender := by
  obtain ⟨cipher, count, fate, -, sent⟩ := carried.answered record member
  rw [SentRecord.refused_handed fate, sent]
  exact nofun

theorem Carried.whole_iff {data : Bytes} {records : List (SentRecord σ)} {s s' : SendState σ}
    (carried : Carried sender tls data records s s') {record : SentRecord σ} (member : record ∈ records) :
    record.fate.Whole ↔ ¬ record.CutShort sender := by
  obtain ⟨cipher, count, fate, within, sent⟩ := carried.answered record member
  have some_count : record.CutShort sender ↔ count < cipher.length := by
    rw [SentRecord.CutShort, fate, RecordFate.cipher, Sender.closesWithin_iff, sent]
    simp
  rw [some_count, RecordFate.Whole, fate]
  constructor
  · rintro ⟨cipher', same⟩
    obtain ⟨rfl, taken⟩ := RecordFate.handed.inj same
    obtain rfl := Option.some.inj taken
    exact Nat.lt_irrefl _
  · intro all
    obtain rfl : count = cipher.length := by omega
    exact ⟨cipher, rfl⟩

theorem Ends.after {first later : Bytes} {value : Int} {records : List (SentRecord σ)}
    {s s' : SendState σ} {result : SendEnd × SendState σ}
    (carried : Carried sender tls first records s s') (ends : Ends sender sound tls later value s' result) :
    Ends sender sound tls (first ++ later) value s result := by
  cases ends with
  | carried records' rest still => exact .carried _ (carried.append rest) still
  | crashed records' last grown accepted overflows tooLarge =>
      refine .crashed (records ++ records') last ?_ (fun record member => ?_) overflows tooLarge
      · rw [grown, carried.grown, List.append_assoc, List.append_assoc]
      · exact (List.mem_append.mp member).elim carried.not_refused (accepted record)
  | failed records' last grown refused =>
      refine .failed (records ++ records') last ?_ refused
      rw [grown, carried.grown, List.append_assoc, List.append_assoc]

variable (encryptMessage) in
theorem sendRecord_ends (truthful : sender.Truthful sound) {data : Bytes} {s : SendState σ}
    (start : sound s.socket) (short : data.length ≤ maxChunk tls.sizes) :
    Ends sender sound tls data (toInt32 data.length) s (sendRecord sender encryptMessage tls data s) := by
  unfold sendRecord
  dsimp only
  split
  · rename_i large
    exact .crashed [] ⟨data, s.socket, .overflow⟩ rfl (by simp) rfl (Nat.not_le_of_lt large)
  · rename_i small
    cases encrypted : encryptMessage (s.records.map SentRecord.plain) data with
    | error status => exact .failed [] ⟨data, s.socket, .unencrypted status⟩ rfl trivial
    | ok cipher =>
        rcases sent : sender.send s.socket cipher with ⟨_ | count, socket⟩
        all_goals dsimp only
        all_goals rw [sent]
        · rw [if_pos rfl]
          refine .failed [] ⟨data, s.socket, .handed cipher none⟩ rfl ?_
          rw [SentRecord.refused_handed rfl, sent]
        · rw [if_neg (by simp)]
          obtain ⟨still, few, accepted⟩ := Sender.send_accepted truthful start sent
          refine .carried [⟨data, s.socket, .handed cipher (some count)⟩] ?_ still
          exact {
            grown := rfl
            whole := by simp
            short := by simpa using short
            fits := by simpa [Fits] using small
            answered := by simp [few, sent]
            accepted := by simpa [RecordFate.takenBytes] using accepted }

theorem toInt32_small {n : Nat} (small : n < 2 ^ 31) : toInt32 n = n := by
  rw [toInt32]
  omega

theorem maxChunk_le (sizes : StreamSizes) : maxChunk sizes ≤ maxMsgSize := Nat.min_le_left _ _

theorem maxChunk_pos (sizes : StreamSizes) : 0 < maxChunk sizes := by
  unfold maxChunk
  split
  · exact Nat.lt_min.mpr ⟨by decide, by omega⟩
  · decide

theorem sendChunks_ends (truthful : sender.Truthful sound) (encrypting : tls.encrypting = true)
    {data : Bytes} {total : Nat} {s : SendState σ} (start : sound s.socket) (within : total ≤ data.length) :
    Ends sender sound tls (data.drop total) (toInt32 data.length) s
      (sendChunks sender encryptMessage tls data total s) := by
  induction left : data.length - total using Nat.strong_induction_on generalizing s total with
  | _ left ih =>
      rw [sendChunks]
      by_cases more : total < data.length
      · have positive := maxChunk_pos tls.sizes
        have few := maxChunk_le tls.sizes
        let count := min (maxChunk tls.sizes) (data.length - total)
        have some_bytes : 0 < count := Nat.lt_min.mpr ⟨positive, by omega⟩
        have length : ((data.drop total).take count).length = count := by
          rw [List.length_take, List.length_drop]
          omega
        have one := sendRecord_ends encryptMessage truthful start
          (show ((data.drop total).take count).length ≤ maxChunk tls.sizes by omega)
        have joined : (data.drop total).take count ++ data.drop (total + count) = data.drop total := by
          rw [← List.drop_drop, List.take_append_drop]
        have value : toInt32 ((data.drop total).take count).length = count := by
          rw [length]
          exact toInt32_small (by simp only [maxMsgSize] at few; omega)
        simp only [if_pos more, sendShort, encrypting, Bool.not_true, Bool.false_eq_true, if_false]
        rw [show min (maxChunk tls.sizes) (data.length - total) = count from rfl]
        cases ends : sendRecord sender encryptMessage tls ((data.drop total).take count) s with
        | mk result s' =>
          rw [ends, value] at one
          cases one with
          | carried records carried still =>
              have goes : ¬ ((count : Int) = socketError ∨ (count : Int) ≤ 0) := by
                rw [socketError]
                omega
              simp only [if_neg goes, Int.toNat_natCast]
              have rest := ih (data.length - (total + count)) (by omega) still (by omega) rfl
              exact joined ▸ Ends.after carried rest
          | crashed records last grown accepted overflows tooLarge =>
              exact .crashed records last grown accepted overflows tooLarge
          | failed records last grown refused =>
              simp only [true_or, if_true]
              exact .failed records last grown refused
      · have done : data.drop total = [] := List.drop_of_length_le (by omega)
        obtain rfl : total = data.length := by omega
        rw [if_neg more, done]
        refine .carried [] ?_ start
        exact ⟨by simp, rfl, by simp, by simp, by simp, by simp⟩

theorem send_ends (truthful : sender.Truthful sound) (encrypting : tls.encrypting = true) {data : Bytes}
    {s : SendState σ} (start : sound s.socket) :
    Ends sender sound tls data (toInt32 data.length) s (send sender encryptMessage tls data s) := by
  simp only [send, encrypting, Bool.not_true, Bool.false_eq_true, if_false]
  split
  · exact sendChunks_ends truthful encrypting start (Nat.zero_le _)
  · exact sendRecord_ends encryptMessage truthful start (by omega)

variable (sender encryptMessage tls) in
theorem send_handed {data cipher : Bytes} {s : SendState σ} (encrypting : tls.encrypting = true)
    (short : data.length ≤ maxChunk tls.sizes) (fits : Fits tls data)
    (encrypted : encryptMessage (s.records.map SentRecord.plain) data = .ok cipher) :
    let (taken, socket) := sender.send s.socket cipher
    send sender encryptMessage tls data s =
      (.returned (if taken = none then socketError else toInt32 data.length),
        ⟨socket, 0, s.records ++ [⟨data, s.socket, .handed cipher taken⟩]⟩) := by
  simp only [send, encrypting, Bool.not_true, Bool.false_eq_true, if_false, Nat.not_lt_of_le short,
    sendRecord, encrypted]
  rw [if_neg (Nat.not_lt_of_le fits)]

/-! ## All or an error -/

/-- A call that returns `SOCKET_ERROR`, or the length of the data, having cut it into records that
the socket took to the last byte. -/
def AllOrError (sender : Sender σ) (tls : SslClient) (data : Bytes) (s : SendState σ)
    (result : SendEnd × SendState σ) : Prop :=
  result.1 = .returned socketError ∨
    (result.1 = .returned data.length ∧ ∃ records, result.2.records = s.records ++ records ∧
      (records.map SentRecord.plain).flatten = data ∧
      (∀ record ∈ records, record.plain.length ≤ maxChunk tls.sizes ∧ record.fate.Whole) ∧
      sender.accepted result.2.socket =
        sender.accepted s.socket ++ (records.map fun record => record.fate.cipher).flatten)

def recordsOf (s : SendState σ) (result : SendEnd × SendState σ) : List (SentRecord σ) :=
  result.2.records.drop s.records.length

theorem recordsOf_eq {s : SendState σ} {result : SendEnd × SendState σ} {records : List (SentRecord σ)}
    (grown : result.2.records = s.records ++ records) : recordsOf s result = records := by
  rw [recordsOf, grown, List.drop_left]

theorem takenBytes_whole {records : List (SentRecord σ)} (whole : ∀ record ∈ records, record.fate.Whole) :
    (records.map fun record => record.fate.takenBytes) = records.map fun record => record.fate.cipher := by
  refine List.map_congr_left fun record member => ?_
  obtain ⟨cipher, fate⟩ := whole record member
  rw [fate, RecordFate.takenBytes, List.take_length, RecordFate.cipher]

theorem Carried.allOrError_iff {data : Bytes} {value : Int} {records : List (SentRecord σ)}
    {s s' : SendState σ} (carried : Carried sender tls data records s s') :
    AllOrError sender tls data s (.returned value, s') ↔
      value = socketError ∨ (value = data.length ∧ ∀ record ∈ records, record.fate.Whole) := by
  refine or_congr ⟨fun same => SendEnd.returned.inj same, congrArg _⟩
    (and_congr ⟨fun same => SendEnd.returned.inj same, congrArg _⟩ ⟨?_, fun whole => ?_⟩)
  · rintro ⟨records', grown, -, whole, -⟩ record member
    obtain rfl := List.append_cancel_left (carried.grown.symm.trans grown)
    exact (whole record member).2
  · refine ⟨records, carried.grown, carried.whole, fun record member =>
      ⟨carried.short record member, whole record member⟩, ?_⟩
    rw [← takenBytes_whole whole]
    exact carried.accepted

theorem send_allOrError_iff (truthful : sender.Truthful sound) (data : Bytes) (s : SendState σ)
    (start : sound s.socket) :
    let result := send sender encryptMessage tls data s
    let records := recordsOf s result
    AllOrError sender tls data s result ↔
      (tls.encrypting = false ∨ ∃ record ∈ records, record.Refused sender) ∨
      ((∀ record ∈ records, Fits tls record.plain) ∧
        (toInt32 data.length = socketError ∨
          (toInt32 data.length = data.length ∧ ∀ record ∈ records, ¬ record.CutShort sender))) := by
  intro result records
  by_cases encrypting : tls.encrypting = true
  swap
  · have refused : tls.encrypting = false := by simpa using encrypting
    refine iff_of_true (.inl ?_) (.inl (.inl refused))
    simp [result, send, refused]
  have ends : Ends sender sound tls data (toInt32 data.length) s result :=
    send_ends truthful encrypting start
  have open_ : ¬ tls.encrypting = false := by simp [encrypting]
  clear_value result
  subst records
  cases ends with
  | carried records carried still =>
      rw [recordsOf_eq carried.grown, carried.allOrError_iff]
      have cut : (∀ record ∈ records, record.fate.Whole) ↔ ∀ record ∈ records, ¬ record.CutShort sender :=
        forall₂_congr fun record member => carried.whole_iff member
      rw [cut]
      constructor
      · exact fun holds => .inr ⟨carried.fits, holds⟩
      · rintro ((refused | ⟨record, member, refused⟩) | ⟨-, holds⟩)
        · exact (open_ refused).elim
        · exact (carried.not_refused member refused).elim
        · exact holds
  | crashed records last grown accepted overflows tooLarge =>
      rw [recordsOf_eq grown]
      refine iff_of_false (by simp [AllOrError]) ?_
      rintro ((refused | ⟨record, member, refused⟩) | ⟨fits, -⟩)
      · exact open_ refused
      · rcases List.mem_append.mp member with member | member
        · exact accepted record member refused
        · obtain rfl := List.mem_singleton.mp member
          rwa [SentRecord.Refused, overflows] at refused
      · exact tooLarge (fits last (by simp))
  | failed records last grown refused =>
      rw [recordsOf_eq grown]
      exact iff_of_true (.inl rfl) (.inl (.inr ⟨last, by simp, refused⟩))

def unchanged (_ : List Bytes) (data : Bytes) : Except UInt32 Bytes := .ok data

theorem unchanged_eq (before : List Bytes) (data : Bytes) : unchanged before data = .ok data := rfl

theorem send_takesAll : (BaseSock.sender.send { isOpen := true } [1, 2, 3]).1 = some 3 := by
  have parts : ∃ s, BaseSock.sender.sendPartial (BaseSock.sender.arm { isOpen := true }) [1, 2, 3] =
      (some 3, s) := ⟨_, rfl⟩
  obtain ⟨s, all⟩ := parts
  simp [Sender.send, Sender.sendLoop, all]

theorem send_allOrError_three : AllOrError BaseSock.sender { encrypting := true } [1, 2, 3]
    { socket := { isOpen := true } } (send BaseSock.sender unchanged { encrypting := true } [1, 2, 3]
      { socket := { isOpen := true } }) := by
  have handed := send_handed BaseSock.sender unchanged { encrypting := true }
    (s := { socket := { isOpen := true } }) rfl (by decide) (by unfold Fits; decide)
    (unchanged_eq _ [1, 2, 3])
  refine (send_allOrError_iff BaseSock.sender_truthful [1, 2, 3] _ rfl).mpr
    (.inr ⟨fun record member => ?_, .inr ⟨by decide, fun record member => ?_⟩⟩)
  all_goals rw [handed, recordsOf_eq rfl] at member
  all_goals obtain rfl := List.mem_singleton.mp member
  · unfold Fits
    decide
  · rw [SentRecord.CutShort, Sender.closesWithin_iff]
    rintro ⟨count, taken, short⟩
    obtain rfl := Option.some.inj (send_takesAll.symm.trans taken)
    exact absurd short (by decide)

/-! ## A socket that is closed within a record -/

/-- It takes two bytes of whatever it is given first, and is closed then. -/
def closing : BaseSock := { isOpen := true, writes := [.done 0 (.bytes 2), .done 0 (.bytes 0)] }

theorem closing_takes_two : (BaseSock.sender.send closing [1, 2, 3]).1 = some 2 := by
  have parts : ∃ s s', BaseSock.sender.sendPartial (BaseSock.sender.arm closing) [1, 2, 3] = (some 2, s) ∧
      BaseSock.sender.sendPartial s [3] = (some 0, s') := ⟨_, _, rfl, rfl⟩
  obtain ⟨s, s', two, closed⟩ := parts
  simp [Sender.send, Sender.sendLoop, two, closed]

theorem send_not_allOrError : ¬ AllOrError BaseSock.sender { encrypting := true } [1, 2, 3]
    { socket := closing } (send BaseSock.sender unchanged { encrypting := true } [1, 2, 3]
      { socket := closing }) := by
  have handed := send_handed BaseSock.sender unchanged { encrypting := true }
    (s := { socket := closing }) rfl (by decide) (by unfold Fits; decide) (unchanged_eq _ [1, 2, 3])
  have two := closing_takes_two
  generalize BaseSock.sender.send closing [1, 2, 3] = answer at handed two
  obtain ⟨taken, socket⟩ := answer
  obtain rfl : taken = some 2 := two
  dsimp only at handed
  rw [handed]
  rintro (fails | ⟨-, records, grown, -, whole, -⟩)
  · simp [socketError, toInt32] at fails
  · obtain rfl : records = [_] := grown.symm
    obtain ⟨cipher, same⟩ := (whole _ List.mem_cons_self).2
    obtain ⟨rfl, taken⟩ := RecordFate.handed.inj same
    exact absurd taken (by decide)

end SslClient
end LuaXENetwork
