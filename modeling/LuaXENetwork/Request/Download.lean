import LuaXENetwork.Http.Exchange
import LuaXENetwork.Http.PushResponse
import LuaXENetwork.Request.EntryPoints
import Mathlib.Logic.Function.Basic

/-! `download` from its arguments to the file. -/

namespace LuaXENetwork
open Library

/-- The directory that a path lies in: it has none, it is there, it is made, or that fails. -/
inductive ParentAnswer where
  | none
  | there
  | made
  | refused (message : Bytes)
deriving DecidableEq, Repr

/-- What the outside answers during one call; `kept` is how much of the body is in the file once it has
been closed, with the buffers of the stream behind it. -/
structure DownloadAnswers where
  exchange : Exchange
  parent : ParentAnswer
  opens : Bool
  writes : Bool
  kept : Nat

/-- The files with their contents, and the files for which directories were made. -/
structure Disk where
  files : Bytes → Option Bytes
  parents : List Bytes := []

/-- `local_path`. -/
def downloadPath (lua : LuaLibrary) (args : List LuaValue) : Except LuaFailure Bytes := checkString lua args 2

namespace Disk

variable (disk : Disk) (path : Bytes)

def makeParent : ParentAnswer → Except LuaFailure Unit × Disk
  | .none | .there => (.ok (), disk)
  | .made => (.ok (), { disk with parents := path :: disk.parents })
  | .refused message =>
      (.error (.error (ascii "failed to create download directory: " ++ message)), disk)

/-- What comes behind the response. The stream is closed in any case, and nothing asks how that went. -/
def save (answers : DownloadAnswers) (body : Bytes) : Except LuaFailure Unit × Disk :=
  match disk.makeParent path answers.parent with
  | (.error failure, disk) => (.error failure, disk)
  | (.ok _, disk) =>
      if !answers.opens then (.error (.error (ascii "failed to open download file for writing")), disk)
      else
        let disk := { disk with files := Function.update disk.files path (some (body.take answers.kept)) }
        if answers.writes then (.ok (), disk)
        else (.error (.error (ascii "failed while writing download file")), disk)

end Disk

/-- `WebRequest_SimpleDownload`: what it leaves on the stack, unless it is still waiting for the response,
and the disk as it is then. -/
def webRequestDownload (lua : LuaLibrary) (platform : Platform) (answers : DownloadAnswers) (args : List LuaValue)
    (disk : Disk) : Option (Except LuaFailure (List LuaValue)) × Disk :=
  match webRequestSimpleDownload lua platform args, downloadPath lua args with
  | .error failure, _ | _, .error failure => (some (.error failure), disk)
  | .ok call, .ok path =>
      match resolveHttpRequest platform answers.exchange call.host call.port call.request call.options with
      | .running _ => (none, disk)
      | .threw thrown => (some (.error (.error thrown.what)), disk)
      | .returned response =>
          match disk.save path answers response.body with
          | (.error failure, disk) => (some (.error failure), disk)
          | (.ok _, disk) =>
              if call.options.returnResponse then
                (some ((pushResponse lua response true).map fun table => [.table table]), disk)
              else (some (.ok []), disk)

end LuaXENetwork
