import SecureShell.Sftp.Reply

namespace SecureShell.Sftp

-- Listing a directory: the path is resolved until it resolves to itself, though no
-- more than `resolutionLimit` times, then the directory is opened, read page by page
-- and closed. What went wrong while reading counts for more than what went wrong
-- while closing.
inductive Listing
  | resolving (path : Octets) (left : Nat)
  | opening
  | reading (handle : Octets) (entries : List Entry)
  | closing (listed : Except SftpFault (List Entry))
  deriving DecidableEq

namespace Listing

def resolutionLimit : Nat := 16

abbrev Move := Progress Listing (List Entry)

def resolve (path : Octets) : Nat → Move
  | 0 => .ask (.opendir path) .opening
  | left + 1 => .ask (.realpath path) (.resolving path left)

def start (path : Octets) : Move := resolve path resolutionLimit

def close (handle : Octets) (listed : Except SftpFault (List Entry)) : Move :=
  .ask (.close handle) (.closing listed)

def resume (listing : Listing) (reply : Reply) : Move :=
  match listing with
  | .resolving path left =>
    match reply.bind Reply.name with
    | .error fault => .finish (.error fault)
    | .ok resolved => resolve resolved (if resolved = path then 0 else left)
  | .opening =>
    match reply.bind Reply.handle with
    | .error fault => .finish (.error fault)
    | .ok handle => .ask (.readdir handle) (.reading handle [])
  | .reading handle entries =>
    match reply.bind Reply.page with
    | .error fault => close handle (.error fault)
    | .ok none => close handle (.ok entries)
    | .ok (some page) => .ask (.readdir handle) (.reading handle (entries ++ page))
  | .closing listed =>
    .finish (listed.bind fun entries => (reply.bind Reply.done).map fun () => entries)

-- How many requests can still go out when nothing comes back any more.
def tail : Listing → Nat
  | .reading .. => 1
  | .resolving .. | .opening | .closing _ => 0

theorem resume_error_tail (listing : Listing) (fault : SftpFault)
    (asked : listing.resume (.error fault) = .ask request rest) : rest.tail < listing.tail := by
  cases listing <;> simp_all [resume, Except.bind, close]
  obtain ⟨_, rfl⟩ := asked
  simp [tail]

end Listing
end SecureShell.Sftp
