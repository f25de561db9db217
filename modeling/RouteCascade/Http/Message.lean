import RouteCascade.Http.FieldMap
import RouteCascade.Http.Uri

/-!
# Requests on the wire

How a request is written: the request line, the fields and the body. The body is framed by what the
caller's fields say, as far as they make sense; where they say nothing, its length is announced. A
request without a body announces nothing of its own.
-/
namespace RouteCascade.Http

open Text

inductive Method where
  | get | post
  deriving DecidableEq, Repr

def Method.text : Method → String
  | get => "GET"
  | post => "POST"

structure Request where
  method : Method
  target : Uri
  fields : FieldMap
  body : Bytes
  deriving DecidableEq, Repr

/-- How a body is delimited. -/
inductive Framing where
  /-- So many bytes; a longer body is cut. -/
  | length (n : Nat)
  /-- One chunk and the final empty one. -/
  | chunked
  deriving DecidableEq, Repr

/-- The fields that are sent, and the framing they announce.

A transfer coding given by the caller is kept, made to end in the chunked one, and ousts a valid
length. A valid length is kept. Otherwise the true length is announced, in the place of an invalid
one. -/
def Request.framing (r : Request) : FieldMap × Framing :=
  if r.body.isEmpty then (r.fields.remove transferEncoding, .length 0) else
  let announced := commonLength? (r.fields.valuesOf contentLength)
  if r.fields.has transferEncoding then
    let fields :=
      if endsChunked (r.fields.valuesOf transferEncoding) then r.fields
      else r.fields.mapLast transferEncoding (· ++ bytesOf ", chunked")
    (if announced.isSome then fields.remove contentLength else fields, .chunked)
  else
    match announced with
    | some n => (r.fields, .length n)
    | none => (r.fields.replace contentLength (decimalBytes r.body.length), .length r.body.length)

/-- A length in capital hexadecimal digits. -/
def chunkSize (n : Nat) : Bytes :=
  (Nat.toDigits 16 n).map fun c => UInt8.ofNat (if 'a' ≤ c then c.toNat - 32 else c.toNat)

def Framing.write (body : Bytes) : Framing → Bytes
  | .length n => body.take n
  | .chunked => chunkSize body.length ++ [cr, lf] ++ body ++ bytesOf "\r\n0\r\n\r\n"

def Request.write (r : Request) : Bytes :=
  let (fields, framing) := r.framing
  bytesOf s!"{r.method.text} {r.target.text} HTTP/1.1\r\n" ++ fields.lines ++ [cr, lf] ++
    framing.write r.body

end RouteCascade.Http
