import LuaXENetwork.Proof.Listener.Request

/-! Accesses to `client.request` while the bytes of the request are still coming in. -/

namespace LuaXENetwork
open Library

/-- The context after so many accesses. -/
def contextAfter (ctx : ListenerContext) : Nat → ListenerContext
  | 0 => ctx
  | n + 1 => (luaRequest (contextAfter ctx n)).2

/-- The bytes begin with a request that has a header line, and its length fields are valid. -/
structure BeginsWithRequest (s method target version : Bytes) (lines : List Bytes)
    (lineEnd separator length : Nat) : Prop where
  header : find headerEnd s = some separator
  short : separator + 4 ≤ maxHeaderBytes
  line : readRequestLine s = some (method, target, version, lineEnd)
  headed : lineEnd < separator
  split : cursorLines (substr s (lineEnd + 2) ((separator : Int) - lineEnd - 2)) = lines
  sized : lines.foldlM requestContentLength 0 = .ok length

/-! ## Nothing received is lost -/

def Holds (receives : List Bytes) (buffer : Bytes) (left : List Bytes) : Prop :=
  ∃ taken, receives = taken ++ left ∧ buffer = taken.flatten

theorem Holds.receive {receives left : List Bytes} {buffer chunk : Bytes}
    (h : Holds receives buffer (chunk :: left)) : Holds receives (buffer ++ chunk) left := by
  obtain ⟨taken, rfl, rfl⟩ := h
  exact ⟨taken ++ [chunk], by simp, by simp⟩

theorem awaitHeader_holds {receives : List Bytes} (left : List Bytes) {buffer : Bytes}
    (h : Holds receives buffer left) :
    Holds receives (awaitHeader buffer left).1 (awaitHeader buffer left).2 := by
  induction left generalizing buffer with
  | nil => exact h
  | cons chunk left ih =>
      rw [awaitHeader]
      split_ifs with stops empty
      · exact h
      · simpa [empty] using h.receive
      · exact ih h.receive

theorem awaitBody_holds {receives : List Bytes} (size : Nat) (left : List Bytes) {buffer : Bytes}
    (h : Holds receives buffer left) :
    Holds receives (awaitBody size buffer left).1 (awaitBody size buffer left).2 := by
  induction left generalizing buffer with
  | nil => exact h
  | cons chunk left ih =>
      rw [awaitBody]
      split_ifs with stops empty
      · exact h
      · simpa [empty] using h.receive
      · exact ih h.receive

def opened (ctx : ListenerContext) : Bytes × List Bytes :=
  match ctx.recvBuffer, ctx.receives with
  | [], chunk :: receives => (chunk, receives)
  | buffer, receives => (buffer, receives)

theorem opened_holds {receives : List Bytes} {ctx : ListenerContext}
    (h : Holds receives ctx.recvBuffer ctx.receives) :
    Holds receives (opened ctx).1 (opened ctx).2 := by
  obtain ⟨buffer, left⟩ := ctx
  unfold opened
  split
  · rename_i chunk left' empty more
    obtain rfl : buffer = [] := empty
    obtain rfl : left = chunk :: left' := more
    exact h.receive
  · exact h

theorem luaRequest_silent {ctx : ListenerContext} (h : (opened ctx).1 = []) :
    luaRequest ctx = (.nothing, ⟨[], (opened ctx).2⟩) := by
  obtain ⟨buffer, left⟩ := ctx
  cases buffer with
  | nil =>
      cases left with
      | nil => rfl
      | cons chunk left =>
          obtain rfl : chunk = [] := h
          rfl
  | cons b buffer => cases left <;> contradiction

theorem luaRequest_opened {ctx : ListenerContext} (h : (opened ctx).1 ≠ []) :
    luaRequest ctx = luaRequest ⟨(opened ctx).1, (opened ctx).2⟩ := by
  obtain ⟨buffer, left⟩ := ctx
  cases buffer with
  | nil =>
      cases left with
      | nil => contradiction
      | cons chunk left =>
          obtain ⟨b, chunk, rfl⟩ := List.exists_cons_of_ne_nil h
          rfl
  | cons b buffer => cases left <;> rfl

inductive Access (buffer : Bytes) (left : List Bytes) : ListenerResult × ListenerContext → Prop where
  | refused {buffer' : Bytes} {left' : List Bytes} {message : Bytes}
      (waits : awaitHeader buffer left = (buffer', left')) :
      Access buffer left (.raised message, ⟨buffer', left'⟩)
  | cut {size : Nat} {buffer' buffer'' : Bytes} {left' left'' : List Bytes} {message : Bytes}
      (waits : awaitHeader buffer left = (buffer', left'))
      (arrives : awaitBody size buffer' left' = (buffer'', left'')) :
      Access buffer left (.raised message, ⟨buffer'', left''⟩)
  | complete {buffer' buffer'' : Bytes} {left' left'' : List Bytes} {separator lineEnd length : Nat}
      {method target version : Bytes} {lines : List Bytes}
      (waits : awaitHeader buffer left = (buffer', left'))
      (found : find headerEnd buffer' = some separator)
      (line : readRequestLine buffer' = some (method, target, version, lineEnd))
      (split : cursorLines (substr buffer' (lineEnd + 2) ((separator : Int) - lineEnd - 2)) = lines)
      (sized : lines.foldlM requestContentLength 0 = .ok length)
      (arrives : awaitBody (separator + 4 + length) buffer' left' = (buffer'', left''))
      (enough : separator + 4 + length ≤ buffer''.length) :
      Access buffer left (.request {
        data := buffer''
        method := method
        query := (splitTarget target).2
        path := (splitTarget target).1
        version := version
        headers := lines
        body := (buffer''.drop (separator + 4)).take length }, ⟨buffer'', left''⟩)

theorem luaRequest_access {buffer : Bytes} (nonempty : buffer ≠ []) (left : List Bytes) :
    Access buffer left (luaRequest ⟨buffer, left⟩) := by
  obtain ⟨b, buffer, rfl⟩ := List.exists_cons_of_ne_nil nonempty
  simp only [luaRequest, if_neg nonempty]
  cases waits : awaitHeader (b :: buffer) left with
  | mk buffer' left' =>
  simp only
  cases found : find headerEnd buffer' with
  | none => exact .refused waits
  | some separator =>
      cases line : readRequestLine buffer' with
      | none => exact .refused waits
      | some parts =>
          obtain ⟨method, target, version, lineEnd⟩ := parts
          simp only
          generalize split : cursorLines (substr buffer' (lineEnd + 2)
            ((separator : Int) - lineEnd - 2)) = lines
          cases sized : lines.foldlM requestContentLength 0 with
          | error message => exact .refused waits
          | ok length =>
              simp only
              cases arrives : awaitBody (separator + 4 + length) buffer' left' with
              | mk buffer'' left'' =>
              split_ifs with short
              · exact .cut waits arrives
              · exact .complete waits found line split sized arrives (by omega)

theorem luaRequest_holds {receives : List Bytes} {ctx : ListenerContext}
    (h : Holds receives ctx.recvBuffer ctx.receives) :
    Holds receives (luaRequest ctx).2.recvBuffer (luaRequest ctx).2.receives := by
  have opens := opened_holds h
  by_cases empty : (opened ctx).1 = []
  · rw [luaRequest_silent empty]
    rwa [empty] at opens
  rw [luaRequest_opened empty]
  have waits := awaitHeader_holds _ opens
  have access := luaRequest_access empty (opened ctx).2
  generalize luaRequest ⟨(opened ctx).1, (opened ctx).2⟩ = result at access ⊢
  cases access with
  | refused waited => rwa [waited] at waits
  | @cut size _ _ _ _ _ waited arrived =>
      rw [waited] at waits
      have arrives := awaitBody_holds size _ waits
      rwa [arrived] at arrives
  | @complete _ _ _ _ separator _ length _ _ _ _ waited found line split sized arrived enough =>
      rw [waited] at waits
      have arrives := awaitBody_holds (separator + 4 + length) _ waits
      rwa [arrived] at arrives

theorem contextAfter_holds (receives : List Bytes) (n : Nat) :
    Holds receives (contextAfter { receives := receives } n).recvBuffer
      (contextAfter { receives := receives } n).receives := by
  induction n with
  | zero => exact ⟨[], rfl, rfl⟩
  | succ n ih => exact luaRequest_holds ih

/-! ## What the first bytes of a request already show -/

theorem substr_within {buffer s : Bytes} (front : buffer <+: s) {position : Nat} {count : Int}
    (positive : 0 ≤ count) (inside : position + count ≤ buffer.length) :
    substr buffer position count = substr s position count := by
  obtain ⟨rest, rfl⟩ := front
  have wraps : count % 2 ^ 64 ≤ count := by omega
  rw [substr, substr, List.drop_append_of_le_length (by omega), List.take_append_of_le_length]
  rw [List.length_drop]
  omega

theorem readRequestLine_some {s method target version : Bytes} {lineEnd : Nat} :
    readRequestLine s = some (method, target, version, lineEnd) ↔
      ∃ first gap, find crlf s = some lineEnd ∧ find (ascii " ") s = some first ∧
        find (ascii " ") (s.drop (first + 1)) = some gap ∧ first + 1 + gap ≤ lineEnd ∧
        method = s.take first ∧
        target = substr s (first + 1) ((↑(first + 1 + gap) : Int) - first - 1) ∧
        version = substr s (first + 1 + gap + 1) ((lineEnd : Int) - ↑(first + 1 + gap) - 1) := by
  simp only [readRequestLine, Option.bind_eq_bind, Option.bind_eq_some_iff]
  constructor
  · rintro ⟨ends, found, first, space, gap, next, order⟩
    split_ifs at order with early
    obtain ⟨rfl, rfl, rfl, rfl⟩ : _ ∧ _ ∧ _ ∧ _ := by simpa using order
    exact ⟨first, gap, found, space, next, by omega, rfl, rfl, rfl⟩
  · rintro ⟨first, gap, found, space, next, order, rfl, rfl, rfl⟩
    exact ⟨lineEnd, found, first, space, gap, next, if_neg (by omega)⟩

theorem space_ne_lineEnd {s : Bytes} {lineEnd first gap : Nat} (ends : find crlf s = some lineEnd)
    (next : find (ascii " ") (s.drop (first + 1)) = some gap) : first + 1 + gap ≠ lineEnd := by
  rintro rfl
  have space := prefix_drop_of_find next
  rw [List.drop_drop] at space
  obtain ⟨rest, line⟩ := prefix_drop_of_find ends
  rw [← line] at space
  exact absurd (List.cons_prefix_cons.mp space).1 (by decide)

theorem readRequestLine_prefix {buffer s method target version : Bytes} {lineEnd : Nat}
    (front : buffer <+: s) (line : readRequestLine s = some (method, target, version, lineEnd))
    (inside : lineEnd + 2 ≤ buffer.length) :
    readRequestLine buffer = some (method, target, version, lineEnd) := by
  rw [readRequestLine_some] at line ⊢
  obtain ⟨first, gap, ends, space, next, order, rfl, rfl, rfl⟩ := line
  have strict := space_ne_lineEnd ends next
  refine ⟨first, gap, find_within front ends inside, ?_, ?_, order, ?_, ?_, ?_⟩
  · exact find_within front space (show first + 1 ≤ _ by omega)
  · refine find_within (front.drop (first + 1)) next ?_
    rw [List.length_drop, show (ascii " ").length = 1 from rfl]
    omega
  · obtain ⟨rest, rfl⟩ := front
    rw [List.take_append_of_le_length (by omega)]
  · exact (substr_within front (by omega) (by omega)).symm
  · exact (substr_within front (by omega) (by omega)).symm

/-- The table that an access leaves when it holds the whole request. -/
def requestTable (method target version : Bytes) (lines : List Bytes) (separator length : Nat)
    (data : Bytes) : ListenerRequest where
  data := data
  method := method
  query := (splitTarget target).2
  path := (splitTarget target).1
  version := version
  headers := lines
  body := (data.drop (separator + 4)).take length

theorem awaitHeader_found {buffer : Bytes} (found : (find headerEnd buffer).isSome)
    (left : List Bytes) : awaitHeader buffer left = (buffer, left) := by
  cases left with
  | nil => rfl
  | cons chunk left => rw [awaitHeader, if_pos (.inl found)]

theorem awaitBody_enough {size : Nat} {buffer : Bytes} (enough : size ≤ buffer.length)
    (left : List Bytes) : awaitBody size buffer left = (buffer, left) := by
  cases left with
  | nil => rfl
  | cons chunk left => rw [awaitBody, if_pos enough]

theorem prefix_awaitBody (size : Nat) (buffer : Bytes) (left : List Bytes) :
    buffer <+: (awaitBody size buffer left).1 := by
  induction left generalizing buffer with
  | nil => exact List.prefix_rfl
  | cons chunk left ih =>
      rw [awaitBody]
      split_ifs
      · exact List.prefix_rfl
      · exact List.prefix_rfl
      · exact (List.prefix_append _ _).trans (ih _)

theorem contextAfter_settled {ctx : ListenerContext} {result : ListenerResult × ListenerContext}
    (settled : luaRequest ctx = result) (still : luaRequest result.2 = result) (k : Nat) :
    luaRequest (contextAfter ctx k) = result := by
  have after (k : Nat) : contextAfter ctx (k + 1) = result.2 := by
    induction k with
    | zero => rw [contextAfter, contextAfter, settled]
    | succ k ih => rw [contextAfter, ih, still]
  cases k with
  | zero => exact settled
  | succ k => rw [after, still]

section Request

variable {s method target version : Bytes} {lines : List Bytes} {lineEnd separator length : Nat}
  (begins : BeginsWithRequest s method target version lines lineEnd separator length)
include begins

theorem BeginsWithRequest.line_le : lineEnd + 2 ≤ separator := by
  obtain ⟨first, gap, ends, -⟩ := readRequestLine_some.mp begins.line
  have headed := begins.headed
  by_contra close
  obtain rfl : separator = lineEnd + 1 := by omega
  obtain ⟨rest, line⟩ := prefix_drop_of_find ends
  obtain ⟨rest', header⟩ := prefix_drop_of_find begins.header
  rw [← List.drop_drop, ← line] at header
  exact absurd (List.cons.inj header).1 (by decide)

theorem BeginsWithRequest.head {buffer : Bytes} (front : buffer <+: s)
    (there : separator + 4 ≤ buffer.length) :
    find headerEnd buffer = some separator ∧
      readRequestLine buffer = some (method, target, version, lineEnd) ∧
      cursorLines (substr buffer (lineEnd + 2) ((separator : Int) - lineEnd - 2)) = lines := by
  have inside := begins.line_le
  refine ⟨find_within front begins.header there, ?_, ?_⟩
  · exact readRequestLine_prefix front begins.line (by omega)
  · rw [substr_within front (by omega) (by omega), begins.split]

theorem luaRequest_again {buffer : Bytes} (front : buffer <+: s)
    (enough : separator + 4 + length ≤ buffer.length) (left : List Bytes) :
    luaRequest ⟨buffer, left⟩ =
      (.request (requestTable method target version lines separator length buffer), ⟨buffer, left⟩) := by
  obtain ⟨found, line, split⟩ := begins.head front (by omega)
  have nonempty : buffer ≠ [] := by
    rintro rfl
    simp at enough
  have waits := awaitHeader_found (Option.isSome_iff_exists.mpr ⟨separator, found⟩) left
  obtain ⟨b, buffer, rfl⟩ := List.exists_cons_of_ne_nil nonempty
  simp only [luaRequest, if_neg nonempty, waits, found, line, split,
    begins.sized, awaitBody_enough enough]
  rw [if_neg (by omega)]
  rfl

theorem luaRequest_request {ctx : ListenerContext} {request : ListenerRequest}
    (front : (luaRequest ctx).2.recvBuffer <+: s) (is : (luaRequest ctx).1 = .request request) :
    request = requestTable method target version lines separator length
        (luaRequest ctx).2.recvBuffer ∧
      separator + 4 + length ≤ (luaRequest ctx).2.recvBuffer.length := by
  by_cases empty : (opened ctx).1 = []
  · rw [luaRequest_silent empty] at is
    contradiction
  rw [luaRequest_opened empty] at is front ⊢
  have access := luaRequest_access empty (opened ctx).2
  generalize luaRequest ⟨(opened ctx).1, (opened ctx).2⟩ = result at access front is ⊢
  cases access with
  | refused waited => contradiction
  | cut waited arrived => contradiction
  | @complete buffer' buffer'' left' left'' separator' lineEnd' length' method' target' version' lines'
      waited found line split sized arrived enough =>
      have within : buffer' <+: s := by
        have grows := prefix_awaitBody (separator' + 4 + length') buffer' left'
        rw [arrived] at grows
        exact grows.trans front
      obtain ⟨rest, whole⟩ := within
      have same : separator' = separator := by
        have header := begins.header
        rw [← whole, find_append found] at header
        exact Option.some.inj header
      subst same
      have there := add_length_le_of_find found
      obtain ⟨-, line', split'⟩ := begins.head ⟨rest, whole⟩ there
      obtain ⟨rfl, rfl, rfl, rfl⟩ : _ ∧ _ ∧ _ ∧ _ := by simpa [line] using line'
      obtain rfl := split.symm.trans split'
      obtain rfl := Except.ok.inj (sized.symm.trans begins.sized)
      exact ⟨(ListenerResult.request.inj is).symm, enough⟩

/-- Whatever pieces and timeouts the accesses meet: all that has come in is still held, a table shows
the request that the stream begins with, and after a table every access gives the same one. -/
theorem luaRequest_accesses (receives : List Bytes) (pieces : receives.flatten <+: s) (n : Nat) :
    let ctx := contextAfter { receives := receives } n
    (∃ taken, receives = taken ++ ctx.receives ∧ ctx.recvBuffer = taken.flatten) ∧
    ∀ request, (luaRequest ctx).1 = .request request →
      (request.method = method ∧ request.path = (splitTarget target).1 ∧
        request.query = (splitTarget target).2 ∧ request.version = version ∧ request.headers = lines ∧
        request.body = (s.drop (separator + 4)).take length) ∧
      ∀ k, luaRequest (contextAfter ctx k) = (.request request, (luaRequest ctx).2) := by
  intro ctx
  have holds : Holds receives ctx.recvBuffer ctx.receives := contextAfter_holds receives n
  refine ⟨holds, fun request is => ?_⟩
  have front : (luaRequest ctx).2.recvBuffer <+: s := by
    obtain ⟨taken, whole, same⟩ := luaRequest_holds holds
    rw [same]
    refine List.IsPrefix.trans ?_ pieces
    rw [whole, List.flatten_append]
    exact List.prefix_append _ _
  obtain ⟨rfl, enough⟩ := luaRequest_request begins front is
  refine ⟨⟨rfl, rfl, rfl, rfl, rfl, ?_⟩, fun k => ?_⟩
  · obtain ⟨rest, whole⟩ := front
    show ((luaRequest ctx).2.recvBuffer.drop (separator + 4)).take length = _
    rw [← whole, List.drop_append_of_le_length (by omega), List.take_append_of_le_length]
    rw [List.length_drop]
    omega
  · have settled : luaRequest ctx = (.request (requestTable method target version lines separator
        length (luaRequest ctx).2.recvBuffer), (luaRequest ctx).2) := Prod.ext is rfl
    exact contextAfter_settled settled
      (luaRequest_again begins front enough (luaRequest ctx).2.receives) k

end Request

/-- A request in three pieces, with a timeout after each of the first two. -/
def cutRequest : List Bytes :=
  [ascii "POST /a?b", [], ascii " HTTP/1.1\r\nContent-Length: 2\r\n\r\nh", [], ascii "i"]

theorem cutRequest_begins : BeginsWithRequest cutRequest.flatten (ascii "POST") (ascii "/a?b")
    (ascii "HTTP/1.1") [ascii "Content-Length: 2"] 18 37 2 where
  header := by decide
  short := by decide
  line := by decide
  headed := by decide
  split := by decide +kernel
  sized := by decide

theorem luaRequest_accesses_cut :
    (luaRequest (contextAfter (contextAfter { receives := cutRequest } 2) 3)).1 =
      .request {
        data := cutRequest.flatten
        method := ascii "POST"
        query := some (ascii "b")
        path := ascii "/a"
        version := ascii "HTTP/1.1"
        headers := [ascii "Content-Length: 2"]
        body := ascii "hi" } := by
  have last := (luaRequest_accesses cutRequest_begins cutRequest List.prefix_rfl 2).2 _
    (by decide +kernel : (luaRequest (contextAfter { receives := cutRequest } 2)).1 = .request {
        data := cutRequest.flatten
        method := ascii "POST"
        query := some (ascii "b")
        path := ascii "/a"
        version := ascii "HTTP/1.1"
        headers := [ascii "Content-Length: 2"]
        body := ascii "hi" })
  rw [last.2 3]

end LuaXENetwork
