import SecureShell.Sftp.File
import SecureShell.Sftp.Listing

namespace SecureShell.Sftp

-- Settings of a session. Common servers take the two paths of a symbolic link in
-- the reverse of the documented order.
structure Settings where
  reversedLinks : Bool := true
  extensions : List Text.Pair := []
  slice : Nat := 32000
  slice_pos : 0 < slice := by decide

-- Writes go out in pieces of this length, and of one octet at least.
def Settings.slicedBy (settings : Settings) (length : Nat) : Settings :=
  { settings with slice := max length 1, slice_pos := by omega }

-- What is done with a file that is open only for the duration.
inductive FileAction
  -- The failure of one that is excused is passed over.
  | perform (task : FileTask) (excused : Bool)
  | fail (fault : SftpFault)
  -- Never comes to an end.
  | hang
  deriving DecidableEq

-- If it fails, all of the use fails.
def FileAction.task (task : FileTask) : FileAction := .perform task false

inductive Task
  | openFile (path : Octets) (mode : OpenMode) (attributes : Attributes)
  | withFile (path : Octets) (mode : OpenMode) (attributes : Attributes) (actions : List FileAction)
  | list (path : Octets)
  | stat (path : Octets)
  | lstat (path : Octets)
  | setstat (path : Octets) (attributes : Attributes)
  | mkdir (path : Octets) (attributes : Attributes)
  | rename (source target : Octets)
  | rmdir (path : Octets)
  | remove (path : Octets)
  | realpath (path : Octets)
  | readlink (path : Octets)
  | symlink (link target : Octets)
  | file (file : OpenFile) (task : FileTask)
  | closeFile (file : OpenFile)
  deriving DecidableEq

inductive Result
  | done
  | octets (octets : Octets)
  | attributes (attributes : Attributes)
  | entries (entries : List Entry)
  | opened (handle : Octets)
  | file (result : FileResult)
  | files (results : List FileResult)
  deriving DecidableEq

-- A task whose latest request awaits its reply.
inductive Procedure
  | expectDone
  | expectName
  | expectAttributes
  | expectHandle
  | inListing (listing : Listing)
  | onFile (file : OpenFile) (work : FileWork)
  | openingFor (slice : Nat) (actions : List FileAction)
  | working (file : OpenFile) (work : FileWork) (excused : Bool) (actions : List FileAction)
      (results : List FileResult)
  -- The action in progress waits for nothing that could come.
  | hanging (file : OpenFile)
  | closingAfter (results : Except SftpFault (List FileResult))
  deriving DecidableEq

namespace Procedure

-- What a task does next: a request, a result, or nothing ever again.
inductive Move
  | ask (request : Request) (rest : Procedure)
  | finish (result : Except SftpFault Result)
  | stay (procedure : Procedure)
  deriving DecidableEq

def Move.ofProgress (onWork : work → Procedure) (onResult : result → Result) :
    Progress work result → Move
  | .ask request rest => .ask request (onWork rest)
  | .finish result => .finish (result.map onResult)

-- The file is closed whatever became of its use.
def closeWith (file : OpenFile) (results : Except SftpFault (List FileResult)) : Move :=
  .ask (.close file.handle) (.closingAfter results)

-- What follows an action that is over.
def useOn (file : OpenFile) (onward : List FileResult → Move) (excused : Bool)
    (results : List FileResult) : Except SftpFault FileResult → Move
  | .ok result => onward (results ++ [result])
  | .error fault => if excused then onward results else closeWith file (.error fault)

-- Goes through the actions up to the next one that has to wait for a reply.
def useFile (file : OpenFile) : List FileAction → List FileResult → Move
  | [], results => closeWith file (.ok results)
  | .fail fault :: _, _ => closeWith file (.error fault)
  | .hang :: _, _ => .stay (.hanging file)
  | .perform task excused :: actions, results =>
    match file.start task with
    | .ask request work => .ask request (.working file work excused actions results)
    | .finish result => useOn file (useFile file actions) excused results result

def start (settings : Settings) : Task → Move
  | .openFile path mode attributes => .ask (.openFile path mode attributes) .expectHandle
  | .withFile path mode attributes actions =>
    .ask (.openFile path mode attributes) (.openingFor settings.slice actions)
  | .list path => .ofProgress .inListing .entries (Listing.start path)
  | .stat path => .ask (.stat path) .expectAttributes
  | .lstat path => .ask (.lstat path) .expectAttributes
  | .setstat path attributes => .ask (.setstat path attributes) .expectDone
  | .mkdir path attributes => .ask (.mkdir path attributes) .expectDone
  | .rename source target => .ask (.rename source target) .expectDone
  | .rmdir path => .ask (.rmdir path) .expectDone
  | .remove path => .ask (.remove path) .expectDone
  | .realpath path => .ask (.realpath path) .expectName
  | .readlink path => .ask (.readlink path) .expectName
  | .symlink link target =>
    .ask (if settings.reversedLinks then .symlink target link else .symlink link target) .expectDone
  | .file file task => .ofProgress (.onFile file) .file (file.start task)
  | .closeFile file => .ask (.close file.handle) .expectDone

def resume (procedure : Procedure) (reply : Reply) : Move :=
  match procedure with
  | .expectDone => .finish (reply.bind Reply.done |>.map fun () => .done)
  | .expectName => .finish (reply.bind Reply.name |>.map .octets)
  | .expectAttributes => .finish (reply.bind Reply.attributes |>.map .attributes)
  | .expectHandle => .finish (reply.bind Reply.handle |>.map .opened)
  | .inListing listing => .ofProgress .inListing .entries (listing.resume reply)
  | .onFile file work => .ofProgress (.onFile file) .file (file.resume work reply)
  | .openingFor slice actions =>
    match reply.bind Reply.handle with
    | .error fault => .finish (.error fault)
    | .ok handle => useFile ⟨handle, slice⟩ actions []
  | .working file work excused actions results =>
    match file.resume work reply with
    | .ask request work => .ask request (.working file work excused actions results)
    | .finish result => useOn file (useFile file actions) excused results result
  | .hanging file => .stay (.hanging file)
  | .closingAfter results =>
    .finish (results.bind fun results => (reply.bind Reply.done).map fun () => .files results)

-- The file that is lost if the task is given up now: one that it has opened for
-- itself and not begun to close.
def lost? : Procedure → Option OpenFile
  | .working file .. | .hanging file => some file
  | _ => none

-- How many requests can still go out when nothing comes back any more: at most one for
-- each action that is left, and the one that closes what is open.
def tail : Procedure → Nat
  | .inListing listing => listing.tail
  | .working _ _ _ actions _ => actions.length + 1
  | _ => 0

theorem useFile_tail (file : OpenFile) (actions : List FileAction) (results : List FileResult)
    (asked : useFile file actions results = .ask request rest) : rest.tail ≤ actions.length := by
  induction actions generalizing results with
  | nil =>
    cases asked
    exact Nat.le_refl 0
  | cons action actions ih =>
    cases action with
    | fail fault =>
      cases asked
      exact Nat.zero_le _
    | hang => cases asked
    | perform task excused =>
      simp only [useFile] at asked
      split at asked
      · cases asked
        exact Nat.le_refl _
      · rename_i result _
        have goesOn (results) (asked : useFile file actions results = .ask request rest) :
            rest.tail ≤ actions.length + 1 := Nat.le_succ_of_le (ih results asked)
        cases result with
        | ok result => exact goesOn _ asked
        | error fault =>
          cases excused with
          | true => exact goesOn _ asked
          | false =>
            cases asked
            exact Nat.zero_le _

theorem resume_error_tail (procedure : Procedure) (fault : SftpFault)
    (asked : procedure.resume (.error fault) = .ask request rest) : rest.tail < procedure.tail := by
  cases procedure with
  | inListing listing =>
    simp only [resume] at asked
    cases moved : listing.resume (.error fault) with
    | ask request rest =>
      simp only [moved, Move.ofProgress] at asked
      cases asked
      exact Listing.resume_error_tail listing fault moved
    | finish result => simp [moved, Move.ofProgress] at asked
  | working file work excused actions results =>
    simp only [resume, OpenFile.resume_error, useOn] at asked
    cases excused with
    | true => exact Nat.lt_succ_of_le (useFile_tail file actions results asked)
    | false =>
      cases asked
      exact Nat.succ_pos _
  | onFile file work => simp [resume, OpenFile.resume_error, Move.ofProgress] at asked
  | _ => simp [resume, Except.bind, Except.map] at asked

end Procedure
end SecureShell.Sftp
