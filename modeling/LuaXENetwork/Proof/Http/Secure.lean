import LuaXENetwork.Proof.Http.Framing
import LuaXENetwork.Proof.Tls.Handover

/-! A response that comes over TLS is one that the server's plaintext says. -/

namespace LuaXENetwork
open Library

/-- The receive loop meets a call of `CSSLClient::Recv`: its bytes, or some error code. -/
def RecvEnd.Meets : RecvEnd → Round → Prop
  | .returned data, round => round.received = .data data
  | .failed _, round => ∃ code, round.received = .failed code

theorem peerStream_meets {ends : List RecvEnd} {rounds : List Round}
    (meets : List.Forall₂ RecvEnd.Meets ends rounds) :
    peerStream rounds <+: (ends.map RecvEnd.data).flatten := by
  induction meets with
  | nil => exact List.prefix_rfl
  | @cons ended round ends rounds met meets ih =>
      rw [peerStream]
      cases ended with
      | failed failure =>
          obtain ⟨code, received⟩ := met
          rw [received]
          exact List.nil_prefix
      | returned data =>
          have received : round.received = .data data := met
          rw [received]
          cases data with
          | nil => exact List.nil_prefix
          | cons byte more => exact (List.prefix_append_right_inj _).mpr ih

section Fetch

variable {κ κ' : Type} {initializeSecurityContext : κ → Bytes → ContextAnswer × κ} {expects : κ → List Bytes}

/-- From the first byte of the server's handshake to the response: however the flights and the
records are cut and packed on the way, the response is what the server has put into the records. -/
theorem https_response (negotiates : Negotiates initializeSecurityContext expects)
    (platform : Platform) {answers : TlsAnswers} {context : κ} {data : Bytes} {w w' : DialWorld}
    (greeted : answers.first.status = secIContinueNeeded) (some_left : expects context ≠ [])
    (calm : w.socket.Calm) (unused : Unused w.tls)
    (incoming : w.socket.incoming = (expects context).flatten ++ data)
    (answered : ∀ w₁, (sendFirstToken answers.first.token).run
        { w with tls := { w.tls with readBufferBytes := 0 } } = (.ok none, w₁) →
      AnsweredBy initializeSecurityContext platform context answers.answers firstRound w₁)
    (succeeded : (initializeTls platform answers).run w = (.ok secEOk, w'))
    {decryptMessage : κ' → Bytes → DecryptAnswer κ'} {keys : κ'} {records : List TlsRecord}
    (decrypts : Decrypts decryptMessage keys records) (whole : data <+: ciphers records)
    (arrivals : List RecvAnswer) (host : WString) (port : Int) (request : Bytes) (options : HttpRequestOptions)
    (limit : options.maxResponseBytes < 2 ^ 63) (exchange : Exchange)
    (meets : List.Forall₂ RecvEnd.Meets
      (RecvState.recvs decryptMessage (List.replicate exchange.rounds.length options.bufferSize)
        { tls := w'.tls, context := keys, wire := ⟨w'.socket.incoming, arrivals⟩ }).1 exchange.rounds)
    {response : HttpResponse}
    (returned : resolveHttpRequest platform exchange host port request options = .returned response) :
    ∃ stream header rest, stream <+: plains records ∧
      ResponseOf options.maxResponseBytes (isHeadRequest request)
        (peerCloses (options.useSsl port) exchange.rounds) stream response header rest := by
  have handed := initializeTls_hands_over platform negotiates greeted some_left calm unused incoming answered
    succeeded
  have intact := (handed.fresh whole keys arrivals).intact decrypts
  obtain ⟨records', cached, -, delivered, -⟩ := RecvState.recvs_hands intact
    (List.replicate exchange.rounds.length options.bufferSize)
  rw [List.nil_append] at delivered
  obtain ⟨header, rest, response_of⟩ := resolveHttpRequest_returned limit returned
  exact ⟨_, header, rest, (peerStream_meets meets).trans ⟨_, delivered⟩, response_of⟩

end Fetch

/-! ## A response in one record -/

/-- A record of a cipher suite that does not encrypt. -/
def unsealed (plain : Bytes) (short : plain.length ≤ 2 ^ 14) : TlsRecord where
  cipher := [23, 3, 3, UInt8.ofNat (plain.length / 256), UInt8.ofNat plain.length] ++ plain
  plain := plain
  header := by
    rw [List.length_append]
    exact Nat.le_add_right _ _
  cipher_short := by
    rw [List.length_append, List.length_cons]
    simp only [List.length_cons, List.length_nil]
    omega
  plain_short := short

def decryptOne (record : TlsRecord) (_ : Unit) (message : Bytes) : DecryptAnswer Unit :=
  if record.cipher <+: message then
    let rest := message.length - record.cipher.length
    let kind := if rest = 0 then .empty else .extra
    ⟨secEOk, message, [⟨.data, 5, record.plain.length⟩, ⟨kind, record.cipher.length, rest⟩], ()⟩
  else ⟨secEIncompleteMessage, message, [], ()⟩

theorem decryptOne_decrypts (plain : Bytes) (short : plain.length ≤ 2 ^ 14) :
    Decrypts (decryptOne (unsealed plain short)) () [unsealed plain short] := by
  have length : (unsealed plain short).cipher.length = 5 + plain.length := by
    simp only [unsealed, List.length_append, List.length_cons, List.length_nil]
  constructor
  · intro rest
    refine ⟨?_, trivial⟩
    rw [decryptOne, if_pos (List.prefix_append _ _)]
    refine ⟨rfl, List.length_append, ⟨⟨.data, 5, plain.length⟩, rfl, ?_, ?_⟩, ?_⟩
    · dsimp only
      rw [List.length_append, length]
      omega
    · dsimp only
      rw [unsealed, List.append_assoc]
      exact List.take_left
    · cases rest with
      | nil => exact .inl ⟨rfl, by simp⟩
      | cons byte rest => exact .inr ⟨List.cons_ne_nil _ _, by simp, List.drop_left⟩
  · intro part shorter proper
    have longer : ¬ (unsealed plain short).cipher <+: part := fun all =>
      proper (shorter.eq_of_length (Nat.le_antisymm shorter.length_le all.length_le))
    exact ⟨[], by rw [decryptOne, if_neg longer]⟩

def noContent : TlsRecord := unsealed (ascii "HTTP/1.1 204 No Content\r\n\r\n") (by decide)

def noContentResponse : HttpResponse where
  rawHeaders := ascii "HTTP/1.1 204 No Content"
  version := ascii "HTTP/1.1"
  status := 204
  reason := ascii "No Content"
  bytesReceived := 27

/-- The record comes in together with the last byte of the handshake. -/
def fetching : DialWorld where
  socket := { isOpen := true, incoming := [5] ++ noContent.cipher }

def fetchingAnswers : TlsAnswers where
  first := { status := secIContinueNeeded, token := [1] }
  answers := [{ status := secEOk, extra := some noContent.cipher.length }]

theorem fetching_answered (w₁ : DialWorld)
    (first : (sendFirstToken fetchingAnswers.first.token).run fetching = (.ok none, w₁)) :
    AnsweredBy oneFlight Platform.blank false fetchingAnswers.answers firstRound w₁ := by
  intro n' w' read
  have seen : ∀ n' ∈ ((readServer firstRound).run
      ((sendFirstToken fetchingAnswers.first.token).run fetching).2).1.toOption.join,
      n'.token ((readServer firstRound).run ((sendFirstToken fetchingAnswers.first.token).run fetching).2).2 =
        5 :: noContent.cipher := by decide +kernel
  rw [first, read] at seen
  rw [seen n' rfl]
  exact ⟨rfl, fun _ _ _ => trivial⟩

theorem https_response_noContent :
    ∃ response, resolveHttpRequest .blank
        (plainExchange (ascii "GET / HTTP/1.1\r\n\r\n") [ascii "HTTP/1.1 204 No Content\r\n\r\n"])
        [] 443 (ascii "GET / HTTP/1.1\r\n\r\n") {} = .returned response ∧
      ∃ stream header rest, stream <+: plains [noContent] ∧
        ResponseOf ({} : HttpRequestOptions).maxResponseBytes false false stream response header rest := by
  have returns : ((initializeTls Platform.blank fetchingAnswers).run fetching).1.toOption = some secEOk := by
    decide +kernel
  have received : (RecvState.recvs (decryptOne noContent) [16384]
      { tls := ((initializeTls Platform.blank fetchingAnswers).run fetching).2.tls
        context := ()
        wire := ⟨((initializeTls Platform.blank fetchingAnswers).run fetching).2.socket.incoming, []⟩ }).1 =
      [.returned (ascii "HTTP/1.1 204 No Content\r\n\r\n")] := by decide +kernel
  have succeeded : (initializeTls Platform.blank fetchingAnswers).run fetching =
      (.ok secEOk, ((initializeTls Platform.blank fetchingAnswers).run fetching).2) := by
    rcases run : (initializeTls Platform.blank fetchingAnswers).run fetching with ⟨error | status, w'⟩
    all_goals rw [run] at returns
    · cases returns
    · rw [Option.some.inj returns]
  have unused : Unused fetching.tls := ⟨List.length_replicate, List.length_replicate, rfl, rfl, rfl⟩
  have some_left : oneFlightLeft false ≠ [] := List.cons_ne_nil _ _
  have returned : resolveHttpRequest .blank
      (plainExchange (ascii "GET / HTTP/1.1\r\n\r\n") [ascii "HTTP/1.1 204 No Content\r\n\r\n"])
      [] 443 (ascii "GET / HTTP/1.1\r\n\r\n") {} = .returned noContentResponse := by decide +kernel
  refine ⟨noContentResponse, returned, ?_⟩
  have meets : List.Forall₂ RecvEnd.Meets [.returned (ascii "HTTP/1.1 204 No Content\r\n\r\n")]
      (plainExchange (ascii "GET / HTTP/1.1\r\n\r\n") [ascii "HTTP/1.1 204 No Content\r\n\r\n"]).rounds :=
    .cons rfl .nil
  rw [← received] at meets
  have decrypts : Decrypts (decryptOne noContent) () [noContent] := decryptOne_decrypts _ _
  have whole : noContent.cipher <+: ciphers [noContent] := by simp [ciphers]
  exact https_response oneFlight_negotiates Platform.blank rfl some_left ⟨rfl, rfl⟩ unused rfl fetching_answered
    succeeded decrypts whole [] [] 443 _ {} (by decide) (plainExchange (ascii "GET / HTTP/1.1\r\n\r\n")
      [ascii "HTTP/1.1 204 No Content\r\n\r\n"]) meets returned

end LuaXENetwork
