import ApiLint.Rule

/-!
# No versions in URIs

Neither the address of a server nor a path should have a version as one of its segments.

## Main definitions

* `UnversionedUris.isVersioned`: whether a segment of a URI is a version, such as `v2` or `V1.0.3`.
* `UnversionedUris.serverViolations`, `UnversionedUris.pathViolations`: what the two checks find.
-/

namespace ApiLint.UnversionedUris

/-- Whether the segment that has begun as a version ends as one: further digits, and groups of a
point and digits, up to a slash or to the end. -/
def endsVersion : List Char → Bool
  | [] => true
  | '/' :: _ => true
  | '.' :: c :: rest => c.isDigit && endsVersion rest
  | c :: rest => c.isDigit && endsVersion rest

/-- Whether a segment that starts here is a version: `v` or `V`, a digit, and what ends one. -/
def startsVersion : List Char → Bool
  | c :: d :: rest => (c == 'v' || c == 'V') && d.isDigit && endsVersion rest
  | _ => false

/-- **Whether a URI is versioned**: some slash in it is followed by a version. -/
def isVersioned : List Char → Bool
  | [] => false
  | c :: rest => (c == '/' && startsVersion rest) || isVersioned rest

/-- The violation of the server at an index, if its address is versioned. -/
def serverViolation? (index : Nat) (server : Value) : Option Violation :=
  match server.field? "url" with
  | some (.string url) =>
    if isVersioned url.toList then
      some ⟨"URL contains version number: " ++ url,
        Pointer.append (Pointer.appendIndex "/servers" index) "url"⟩
    else none
  | _ => none

/-- The violations among servers, counted from the given index. -/
def serversFrom (index : Nat) : List Value → List Violation
  | [] => []
  | server :: rest => (serverViolation? index server).toList ++ serversFrom (index + 1) rest

/-- **The servers of a document with a versioned address.** -/
def serverViolations (root : Value) : List Violation :=
  match root.field? "servers" with
  | some (.array servers) => serversFrom 0 servers
  | _ => []

/-- **The versioned paths of a document.** -/
def pathViolations (root : Value) : List Violation :=
  match root.field? "paths" with
  | some (.object paths) =>
    (paths.filter fun (path, _) => isVersioned path.toList).map fun (path, _) =>
      ⟨"Path contains version number: " ++ path, Pointer.append "/paths" path⟩
  | _ => []

/-- The rule. -/
def rule : Rule :=
  ⟨[⟨"check_server_urls", .must, fun context => .ok (serverViolations context.root)⟩,
    ⟨"check_paths", .must, fun context => .ok (pathViolations context.root)⟩]⟩

end ApiLint.UnversionedUris
