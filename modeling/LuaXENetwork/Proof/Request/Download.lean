import LuaXENetwork.Proof.Http.Framing
import LuaXENetwork.Proof.Request.EntryPoints
import LuaXENetwork.Proof.Request.OneRequest
import LuaXENetwork.Request.Download

/-! What a download leaves on the disk. -/

namespace LuaXENetwork
open Library

/-! ## The call that is made -/

section Call

variable {lua : LuaLibrary} {platform : Platform} {args : List LuaValue}

theorem luaNumber_toInteger_lt (n : LuaNumber) : n.toInteger < 2 ^ 63 := by
  cases n with
  | finite value =>
      rw [LuaNumber.toInteger]
      generalize (if 0 ≤ value then value.floor else value.ceil) = whole
      by_cases fits : -2 ^ 63 ≤ whole ∧ whole < 2 ^ 63
      · simp only [if_pos fits]
        exact fits.2
      · simp only [if_neg fits]
        decide
  | infinite negative => exact show (-2 ^ 63 : Int) < 2 ^ 63 by decide
  | nan => exact show (-2 ^ 63 : Int) < 2 ^ 63 by decide

theorem requestInteger_lt (table : LuaValue) (name : String) {fallback : Int} (small : fallback < 2 ^ 63) :
    requestInteger lua table name fallback < 2 ^ 63 := by
  rw [requestInteger]
  split
  · rw [LuaValue.toInteger]
    cases (table.getField name).number? lua with
    | none => exact show (0 : Int) < 2 ^ 63 by decide
    | some n => exact luaNumber_toInteger_lt n
  · exact small

theorem readOptions_limit {index : Nat} {table : LuaValue} {options : HttpRequestOptions}
    (read : readOptions lua platform index table = .ok options) : options.maxResponseBytes < 2 ^ 63 := by
  have field : requestInteger lua table "max_response_bytes" (64 * 1024 * 1024) < 2 ^ 63 :=
    requestInteger_lt table _ (by decide)
  have limit : (max 1 (requestInteger lua table "max_response_bytes" (64 * 1024 * 1024))).toNat < 2 ^ 63 :=
    (Int.toNat_lt (le_max_of_le_left (by decide))).mpr (max_lt (by decide) field)
  have read := NetworkCall.readOptions_ok.mp read
  unfold readRequestOptions at read
  by_cases no_table : index = 0 ∨ table.isTable = false
  · rw [if_pos no_table] at read
    rw [← Except.ok.inj read]
    decide
  · rw [if_neg no_table] at read
    simp only at read
    split_ifs at read with direct
    · simp only [pure_bind, pure_eq_ok] at read
      rw [← read]
      exact limit
    · simp only [bind_eq_ok, pure_eq_ok] at read
      obtain ⟨proxy, -, rfl⟩ := read
      exact limit

theorem simpleRequest_limit {accept : String} {slot : Nat} {url : Bytes} {call : HttpCall}
    (built : simpleRequest lua platform accept slot args url = .ok call) :
    call.options.maxResponseBytes < 2 ^ 63 := by
  simp only [simpleRequest] at built
  cases parsed : parseHttpUrl url with
  | error what => simp [parsed] at built
  | ok target =>
      simp only [parsed, pure_bind, bind_eq_ok, pure_eq_ok] at built
      obtain ⟨options, read, rfl⟩ := built
      exact show options.maxResponseBytes < 2 ^ 63 from readOptions_limit read

theorem webRequestSimpleDownload_call {call : HttpCall}
    (built : webRequestSimpleDownload lua platform args = .ok call) :
    call.options.maxResponseBytes < 2 ^ 63 ∧ isHeadRequest call.request = false := by
  obtain ⟨url, target, -, -, request⟩ := (Fetches.download built).request
  constructor
  · rw [webRequestSimpleDownload, bind_eq_ok] at built
    obtain ⟨url, -, rest⟩ := built
    cases parses : parseHttpUrl url with
    | error what => simp [parses] at rest
    | ok target =>
        simp only [parses, bind_eq_ok] at rest
        obtain ⟨path, -, simple⟩ := rest
        exact simpleRequest_limit simple
  · rw [request]
    rfl

/-- The file is named before the options are read. -/
theorem webRequestSimpleDownload_path {call : HttpCall}
    (built : webRequestSimpleDownload lua platform args = .ok call) :
    ∃ path, downloadPath lua args = .ok path := by
  rw [webRequestSimpleDownload, bind_eq_ok] at built
  obtain ⟨url, -, rest⟩ := built
  cases parses : parseHttpUrl url with
  | error what => simp [parses] at rest
  | ok target =>
      simp only [parses, bind_eq_ok] at rest
      obtain ⟨path, checked, -⟩ := rest
      exact ⟨path, checked⟩

end Call

/-! ## The file -/

namespace Disk

variable (disk : Disk) (path : Bytes)

theorem makeParent_files (answer : ParentAnswer) : (disk.makeParent path answer).2.files = disk.files := by
  cases answer with
  | none => rfl
  | there => rfl
  | made => rfl
  | refused message => rfl

/-- Only the one file is written to, and it is the body as far as it gets. -/
inductive Saved (answers : DownloadAnswers) (body : Bytes) : Except LuaFailure Unit × Disk → Prop
  | untouched (failure : LuaFailure) (disk' : Disk) (same : disk'.files = disk.files) :
      Saved answers body (.error failure, disk')
  | written (result : Except LuaFailure Unit) (disk' : Disk)
      (whole : disk'.files = Function.update disk.files path (some (body.take answers.kept)))
      (reported : result = .ok () ↔ answers.writes = true) : Saved answers body (result, disk')

theorem save_saved (answers : DownloadAnswers) (body : Bytes) :
    disk.Saved path answers body (disk.save path answers body) := by
  have files := disk.makeParent_files path answers.parent
  rw [save]
  generalize disk.makeParent path answers.parent = parent at files
  obtain ⟨error | ⟨⟩, disk'⟩ := parent
  · exact .untouched error disk' files
  · cases opens : answers.opens with
    | false => exact .untouched _ disk' files
    | true =>
        have whole : Function.update disk'.files path (some (body.take answers.kept)) =
            Function.update disk.files path (some (body.take answers.kept)) :=
          congrArg (Function.update · path _) files
        cases writes : answers.writes with
        | false => exact .written _ _ whole (by rw [writes]; simp)
        | true => exact .written _ _ whole (by rw [writes]; simp)

end Disk

/-! ## Whole downloads -/

/-- How a download may end. -/
inductive Downloaded (lua : LuaLibrary) (platform : Platform) (answers : DownloadAnswers) (args : List LuaValue)
    (disk : Disk) : Option (Except LuaFailure (List LuaValue)) × Disk → Prop
  | without (result : Option (Except LuaFailure (List LuaValue))) (fails : ∀ values, result ≠ some (.ok values)) :
      Downloaded lua platform answers args disk (result, disk)
  | behind {call : HttpCall} {path : Bytes} {response : HttpResponse} (result : Except LuaFailure (List LuaValue))
      (disk' : Disk) (saved : Except LuaFailure Unit)
      (built : webRequestSimpleDownload lua platform args = .ok call) (named : downloadPath lua args = .ok path)
      (returned : resolveHttpRequest platform answers.exchange call.host call.port call.request call.options =
        .returned response)
      (written : disk.Saved path answers response.body (saved, disk'))
      (refused : saved ≠ .ok () → ∀ values, result ≠ .ok values) :
      Downloaded lua platform answers args disk (some result, disk')

theorem webRequestDownload_downloaded (lua : LuaLibrary) (platform : Platform) (answers : DownloadAnswers)
    (args : List LuaValue) (disk : Disk) :
    Downloaded lua platform answers args disk (webRequestDownload lua platform answers args disk) := by
  unfold webRequestDownload
  cases built : webRequestSimpleDownload lua platform args with
  | error failure => exact .without _ nofun
  | ok call =>
      obtain ⟨path, named⟩ := webRequestSimpleDownload_path built
      rw [named]
      dsimp only
      cases returned : resolveHttpRequest platform answers.exchange call.host call.port call.request
          call.options with
      | running t => exact .without _ nofun
      | threw thrown => exact .without _ nofun
      | returned response =>
          have saved := disk.save_saved path answers response.body
          dsimp only
          generalize disk.save path answers response.body = result at saved
          obtain ⟨failure | ⟨⟩, disk'⟩ := result
          · exact .behind _ disk' _ built named returned saved fun _ => nofun
          · dsimp only
            split
            · exact .behind _ disk' _ built named returned saved fun refused => absurd rfl refused
            · exact .behind _ disk' _ built named returned saved fun refused => absurd rfl refused

/-- The response is the one that the peer has sent to this call, and the file the one it is for. -/
def Fetched (lua : LuaLibrary) (platform : Platform) (exchange : Exchange) (args : List LuaValue) (path : Bytes)
    (response : HttpResponse) : Prop :=
  downloadPath lua args = .ok path ∧ ∃ call header rest, webRequestSimpleDownload lua platform args = .ok call ∧
    ResponseOf call.options.maxResponseBytes false (peerCloses (call.options.useSsl call.port) exchange.rounds)
      (peerStream exchange.rounds) response header rest

/-- A download touches no file before the whole response is there, and only the one it is for; one that
succeeds has the body of the response in it, as far as the disk has taken it when the file was closed. -/
theorem download_saves (lua : LuaLibrary) (platform : Platform) (answers : DownloadAnswers)
    (args : List LuaValue) (disk : Disk) :
    let result := webRequestDownload lua platform answers args disk
    (∀ file, result.2.files file ≠ disk.files file →
      ∃ response, Fetched lua platform answers.exchange args file response ∧
        result.2.files file = some (response.body.take answers.kept)) ∧
    ∀ values, result.1 = some (.ok values) →
      ∃ path response, Fetched lua platform answers.exchange args path response ∧ answers.writes = true ∧
        (result.2.files path = some response.body ↔ response.body.length ≤ answers.kept) := by
  intro result
  have ended := webRequestDownload_downloaded lua platform answers args disk
  change Downloaded lua platform answers args disk result at ended
  generalize result = result at ended
  cases ended with
  | without ended fails =>
      exact ⟨fun file changed => absurd rfl changed, fun values succeeded => absurd succeeded (fails values)⟩
  | @behind call path response ended disk' saved built named returned written refused =>
      obtain ⟨limit, no_head⟩ := webRequestSimpleDownload_call built
      obtain ⟨header, rest, response_of⟩ := resolveHttpRequest_returned limit returned
      rw [no_head] at response_of
      have fetched : Fetched lua platform answers.exchange args path response :=
        ⟨named, call, header, rest, built, response_of⟩
      cases written with
      | untouched failure disk' same =>
          constructor
          · intro file changed
            exact absurd (congrFun same file) changed
          · intro values succeeded
            exact absurd (Option.some.inj succeeded) (refused nofun values)
      | written saved disk' whole reported =>
          have stored : disk'.files path = some (response.body.take answers.kept) := by
            rw [whole]
            exact Function.update_self ..
          constructor
          · intro file changed
            by_cases same : file = path
            · subst same
              exact ⟨response, fetched, stored⟩
            · apply absurd _ changed
              change disk'.files file = disk.files file
              rw [whole]
              exact Function.update_of_ne same ..
          · intro values succeeded
            have reports : saved = .ok () := by
              by_contra unsaved
              exact refused unsaved values (Option.some.inj succeeded)
            refine ⟨path, response, fetched, reported.mp reports, ?_⟩
            change disk'.files path = _ ↔ _
            rw [stored, Option.some.injEq]
            exact List.take_eq_self_iff _

end LuaXENetwork
