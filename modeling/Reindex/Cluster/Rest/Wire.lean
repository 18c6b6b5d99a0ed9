import Reindex.Url.Basic

/-!
# The wire

Requests go out and replies come back. What listens at the other end is a list of replies that are
given in order, or nothing at all; requests that reach it are kept.
-/

namespace Reindex

structure Request where
  method : String
  url : Url
  authorization : Option String := none
  contentType : Option String := none
  body : String := ""
deriving DecidableEq, Repr

/-- What the other end does with a request. -/
inductive Reply where
  /-- `truncated` breaks off before the body is whole. -/
  | answer (status : Nat) (body : String) (truncated : Bool)
  /-- The connection is closed without an answer. -/
  | hangUp
deriving DecidableEq, Repr

/-- The other end. -/
inductive Wire where
  /-- Nothing listens. -/
  | down
  /-- These replies are left, and these requests came. -/
  | up (replies : List Reply) (received : List Request)
deriving DecidableEq, Repr

/-- What a sender learns. -/
inductive Delivery where
  /-- No answer; why. -/
  | lost (reason : String)
  /-- An answer; its body is none if it broke off. -/
  | answered (status : Nat) (body : Option String)
deriving DecidableEq, Repr

/-- A character that a header cannot carry. -/
def isIllegalInHeader (c : Char) : Bool := (c.toNat < 0x20 && c ≠ '\t') || c.toNat = 0x7F

/-- A character that the host of a URL may hold, but not the host of a request. -/
def isIllegalInHost (c : Char) : Bool := c ∈ ['"', '\x60', '\x7b', '\x7d', '%']

/-- The most bytes of the URL of a request. -/
def longestRequestUrl : Nat := 65534

/-- A URL to which requests can go. -/
def Url.isReachable (u : Url) : Bool :=
  (u.scheme = "http" ∨ u.scheme = "https") && !((u.host.getD []).any isIllegalInHost) &&
    u.text.utf8ByteSize ≤ longestRequestUrl

/-- Why a request cannot be sent at all. A URL without a host is found out before its headers
are. -/
def Request.unsendable? (r : Request) : Option String :=
  let wrongUrl := "builder error for url (" ++ r.url.text ++ ")"
  if (r.url.host.getD []).isEmpty then some wrongUrl
  else if (r.authorization.map fun h => h.toList.any isIllegalInHeader).getD false then
    some "builder error"
  else if !r.url.isReachable then some wrongUrl
  else none

/-- No body comes with the answer to a `HEAD`, nor with the statuses that have none. -/
def isBodiless (r : Request) (status : Nat) : Bool :=
  r.method = "HEAD" ∨ status = 204 ∨ status = 304

namespace Wire

/-- The reason for a request to which no answer comes. -/
def lostReason (r : Request) : String := "error sending request for url (" ++ r.url.text ++ ")"

/-- Sends a request. -/
def send (r : Request) (w : Wire) : Delivery × Wire :=
  match r.unsendable? with
  | some reason => (.lost reason, w)
  | none =>
    match w with
    | .down => (.lost (lostReason r), .down)
    | .up [] received => (.lost (lostReason r), .up [] (received ++ [r]))
    | .up (.hangUp :: replies) received => (.lost (lostReason r), .up replies (received ++ [r]))
    | .up (.answer status body truncated :: replies) received =>
      let body := if isBodiless r status then some "" else if truncated then none else some body
      (.answered status body, .up replies (received ++ [r]))

end Wire

end Reindex
