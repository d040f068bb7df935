import Kubermatic.Basic

/-!
# Reading the answer of the datacenter listing

The API client of the end-to-end tests reads the answer of `GET /api/v1/dc` with
`ListDatacentersReader.ReadResponse` (generated by go-swagger). For the status code `200`
it decodes a datacenter list; for any other code it decodes an error response, and
returns it as the result when the code is in the `2xx` class and as the error otherwise.
A payload whose body is empty (`io.EOF`) is read as the zero payload.

* `readResponse` — the reader, with the consumer and the payload types as parameters;
* `readResponse_spec` — exactly one of the two results is set; the reader answers no
  error exactly for a `2xx` code whose body the consumer decoded or found empty, with
  Go's truncated division in `response.Code()/100 == 2`; a default result carries the
  response's code.
-/

namespace Kubermatic.Datacenter

/-- The error a consumer returns: `io.EOF`, or another one. -/
inductive ConsumeError where
  | eof
  | other (err : Error)
  deriving DecidableEq, Repr

/-- `runtime.ClientResponse`, by what `ReadResponse` reads: the code and the body. -/
structure ClientResponse where
  code : Int
  body : List UInt8
  deriving DecidableEq, Repr

/-- `runtime.Consumer`, by what `Consume` does for each payload type: the payload it
leaves behind and the error it returns. The payload types, `models.DatacenterList` and
`models.ErrorResponse`, are parameters: the reader only stores them. -/
structure Consumer (DatacenterList ErrorResponse : Type) where
  consumeDatacenterList : List UInt8 → DatacenterList × Option ConsumeError
  consumeErrorResponse : List UInt8 → ErrorResponse × Option ConsumeError

variable {DatacenterList ErrorResponse : Type}

/-- `ListDatacentersOK`. -/
structure ListDatacentersOK (DatacenterList : Type) where
  payload : DatacenterList
  deriving DecidableEq, Repr

/-- `ListDatacentersDefault`; its payload pointer is `nil` until it is read. -/
structure ListDatacentersDefault (ErrorResponse : Type) where
  statusCode : Int
  payload : Option ErrorResponse
  deriving DecidableEq, Repr

/-- `NewListDatacentersDefault`. -/
def newListDatacentersDefault (code : Int) : ListDatacentersDefault ErrorResponse := ⟨code, none⟩

/-- `if err := consumer.Consume(...); err != nil && err != io.EOF { return err }`. -/
def readError : Option ConsumeError → Option Error
  | some (.other err) => some err
  | _ => none

/-- `(*ListDatacentersOK).readResponse`. -/
def ListDatacentersOK.readResponse (consumer : Consumer DatacenterList ErrorResponse)
    (response : ClientResponse) : ListDatacentersOK DatacenterList × Option Error :=
  let r := consumer.consumeDatacenterList response.body
  (⟨r.1⟩, readError r.2)

/-- `(*ListDatacentersDefault).readResponse`: the payload is set to a new error response,
which the consumer fills. -/
def ListDatacentersDefault.readResponse (o : ListDatacentersDefault ErrorResponse)
    (consumer : Consumer DatacenterList ErrorResponse) (response : ClientResponse) :
    ListDatacentersDefault ErrorResponse × Option Error :=
  let r := consumer.consumeErrorResponse response.body
  ({ o with payload := some r.1 }, readError r.2)

/-- The first result of `ReadResponse`, an `interface{}` holding one of the two results. -/
inductive Value (DatacenterList ErrorResponse : Type) where
  | ok (result : ListDatacentersOK DatacenterList)
  | default (result : ListDatacentersDefault ErrorResponse)
  deriving DecidableEq, Repr

/-- The error `ReadResponse` returns: the consumer's, or the default result itself. -/
inductive ReadError (ErrorResponse : Type) where
  | consume (err : Error)
  | default (result : ListDatacentersDefault ErrorResponse)
  deriving DecidableEq, Repr

/-- `(*ListDatacentersReader).ReadResponse`, both of its results. `response.Code()/100`
is Go's integer division, which truncates toward zero. -/
def readResponse (consumer : Consumer DatacenterList ErrorResponse) (response : ClientResponse) :
    Option (Value DatacenterList ErrorResponse) × Option (ReadError ErrorResponse) :=
  if response.code = 200 then
    let r := ListDatacentersOK.readResponse consumer response
    match r.2 with
    | some err => (none, some (.consume err))
    | none => (some (.ok r.1), none)
  else
    let r := (newListDatacentersDefault response.code).readResponse consumer response
    match r.2 with
    | some err => (none, some (.consume err))
    | none =>
      if response.code.tdiv 100 = 2 then (some (.default r.1), none) else (none, some (.default r.1))

/-! ## What the reader answers -/

/-- The consumer's error on the response's body, for the payload the code selects. -/
def consumed (consumer : Consumer DatacenterList ErrorResponse) (response : ClientResponse) :
    Option ConsumeError :=
  if response.code = 200 then (consumer.consumeDatacenterList response.body).2
  else (consumer.consumeErrorResponse response.body).2

theorem readError_eq_none {e : Option ConsumeError} : readError e = none ↔ e = none ∨ e = some .eof := by
  rcases e with _ | _ | _ <;> simp [readError]

/-- `code/100 == 2` in Go: truncation toward zero puts the codes `-299 … -200` in the class
`-2`, so the class `2` is exactly `200 … 299`. -/
theorem tdiv_hundred_eq_two_iff (code : Int) : code.tdiv 100 = 2 ↔ 200 ≤ code ∧ code ≤ 299 := by
  rcases le_or_lt 0 code with h | h
  · rw [Int.tdiv_eq_ediv h (by decide)]; omega
  · have hneg : code.tdiv 100 = -((-code) / 100) := by
      rw [← Int.tdiv_eq_ediv (by omega) (by decide), Int.neg_tdiv, neg_neg]
    rw [hneg]; omega

/-- **The reader answers a result exactly for a `2xx` code.** For every code, body and
consumer, `ReadResponse` sets exactly one of its two results; it answers no error exactly
when the code is in `200 … 299` and the consumer decoded the body or found it empty; and
a default result, answered as the result or as the error, carries the response's code. -/
theorem readResponse_spec (consumer : Consumer DatacenterList ErrorResponse)
    (response : ClientResponse) :
    (readResponse consumer response).1.isSome = !(readResponse consumer response).2.isSome ∧
    ((readResponse consumer response).2 = none ↔
      200 ≤ response.code ∧ response.code ≤ 299 ∧
        (consumed consumer response = none ∨ consumed consumer response = some .eof)) ∧
    ∀ d, ((readResponse consumer response).1 = some (.default d) ∨
        (readResponse consumer response).2 = some (.default d)) → d.statusCode = response.code := by
  unfold readResponse consumed
  by_cases h200 : response.code = 200
  · simp only [h200, ↓reduceIte, ← readError_eq_none, ListDatacentersOK.readResponse]
    cases readError (consumer.consumeDatacenterList response.body).2 <;> simp
  · simp only [h200, ↓reduceIte, ← readError_eq_none, ListDatacentersDefault.readResponse,
      newListDatacentersDefault]
    cases readError (consumer.consumeErrorResponse response.body).2
    · have hclass := tdiv_hundred_eq_two_iff response.code
      split_ifs with hd
      · simpa using hclass.mp hd
      · simpa using hclass.not.mp hd
    · simp

/-- The code `-250` is in Go's class `-2`: the default result comes back as the error. -/
example : (readResponse (⟨fun _ => ((), none), fun _ => ((), none)⟩ : Consumer Unit Unit)
    ⟨-250, []⟩).2 = some (.default ⟨-250, some ()⟩) := by
  decide

end Kubermatic.Datacenter
