import AssetPilot.Core.Session

/-!
# The response envelope

`app/utils/response.py`, with the exception handlers and the request-id middleware of `app/main.py`: whatever a
request ends with becomes one envelope. The `data` of a success is the schema's rendering of the service's result
and is left out.
-/

namespace AssetPilot

/-- What the framework raises before any endpoint: for an unknown path, for a method that the path does not take,
and for a body that cannot be decoded. -/
inductive FrameworkError
  | notFound
  | methodNotAllowed
  | unreadableBody
  deriving DecidableEq

namespace FrameworkError

def statusCode : FrameworkError → Nat
  | notFound => 404
  | methodNotAllowed => 405
  | unreadableBody => 400

def detail : FrameworkError → String
  | notFound => "Not Found"
  | methodNotAllowed => "Method Not Allowed"
  | unreadableBody => "There was an error parsing the body"

end FrameworkError

/-- An entry of `RequestValidationError.errors()`: where, and what. -/
structure ValidationIssue where
  loc : List String
  msg : String
  deriving DecidableEq

/-- What an endpoint raises. -/
inductive ApiError
  | failure (f : Failure)
  | requestValidationError (errors : List ValidationIssue)
  | httpException (statusCode : Nat) (detail : Option String)
  deriving DecidableEq

/-! ### The envelope -/

structure ErrorDetail where
  field : String
  issue : String
  deriving DecidableEq

structure ErrorBody where
  code : String
  message : String
  details : Option (List ErrorDetail)
  deriving DecidableEq

/-- What `_base_meta` builds. -/
structure BaseMeta where
  timestamp : Datetime
  requestId : Option String
  deriving DecidableEq

structure Envelope where
  statusCode : Nat
  message : Option String
  error : Option ErrorBody
  baseMeta : BaseMeta
  success : Bool
  deriving DecidableEq

/-- `requestId` is the `X-Request-ID` header. -/
structure Response where
  statusCode : Nat
  requestId : Option String
  body : Envelope
  deriving DecidableEq

/-- The header is there when the request id is not empty. -/
def requestIdHeaders (requestId : Option String) : Option String := requestId.filter (· ≠ "")

/-- `requestId` is what `get_request_id()` reads, and `now` the clock. -/
def successResponse (requestId : Option String) (now : Datetime) (statusCode : Nat) (message : String) :
    Response where
  statusCode := statusCode
  requestId := requestIdHeaders requestId
  body :=
    { statusCode := statusCode
      message := some message
      error := none
      baseMeta := { timestamp := now, requestId := requestId }
      success := true }

def errorResponse (requestId : Option String) (now : Datetime) (statusCode : Nat) (code message : String)
    (details : Option (List ErrorDetail)) : Response where
  statusCode := statusCode
  requestId := requestIdHeaders requestId
  body :=
    { statusCode := statusCode
      message := some message
      error := some { code := code, message := message, details := details }
      baseMeta := { timestamp := now, requestId := requestId }
      success := false }

/-! ### The exception handlers -/

/-- `_HTTP_STATUS_TO_CODE.get(status_code, ErrorCode.INTERNAL_SERVER_ERROR)`. -/
def httpStatusToCode (statusCode : Nat) : String :=
  if statusCode = 401 then "UNAUTHORIZED"
  else if statusCode = 403 then "FORBIDDEN"
  else if statusCode = 404 then "RESOURCE_NOT_FOUND"
  else if statusCode = 409 then "CONFLICT"
  else if statusCode = 422 then "VALIDATION_ERROR"
  else if statusCode = 429 then "RATE_LIMITED"
  else if statusCode = 503 then "SERVICE_UNAVAILABLE"
  else "INTERNAL_SERVER_ERROR"

/-- The details of a validation error: the location is joined with dots. -/
def ValidationIssue.detail (issue : ValidationIssue) : ErrorDetail where
  field := ".".intercalate issue.loc
  issue := issue.msg

/-- The handlers that `register_exception_handlers` installs; the last one takes what no other does. -/
def exceptionHandler (requestId : Option String) (now : Datetime) : ApiError → Response
  | .failure (.app exc) => errorResponse requestId now exc.statusCode exc.code exc.message none
  | .requestValidationError errors =>
    errorResponse requestId now 422 "VALIDATION_ERROR" "Request validation failed."
      (some (errors.map ValidationIssue.detail))
  | .httpException statusCode detail =>
    errorResponse requestId now statusCode (httpStatusToCode statusCode) (detail.getD "An error occurred.") none
  | .failure _ =>
    errorResponse requestId now 500 "INTERNAL_SERVER_ERROR"
      "An unexpected error occurred. Please try again later." none

/-- The last handler runs outside of the middleware, in `ServerErrorMiddleware`. -/
def ApiError.isHandledInside : ApiError → Bool
  | .failure (.app _) | .requestValidationError _ | .httpException _ _ => true
  | .failure _ => false

/-! ### The request id -/

/-- `uuid.uuid4().hex`. -/
def generateRequestId (u : UUID) : String := String.ofList (Hex.hexNumeral 32 u.toNat)

/-- The request id of a request: its header, if that is not empty, or a new one. -/
def requestIdOf (header : Option String) (u : UUID) : String := (header.filter (· ≠ "")).getD (generateRequestId u)

/-- `RequestContextMiddleware.dispatch`, and `ServerErrorMiddleware` around it: the response, and what is left in
the context variable. It is bound before anything else, and cleared only where no exception passes by. -/
def dispatch (requestId : String) (now : Datetime) : Except ApiError (Nat × String) → Response × Option String
  | .ok (statusCode, message) =>
    ({ successResponse (some requestId) now statusCode message with requestId := some requestId }, none)
  | .error e =>
    if e.isHandledInside then
      ({ exceptionHandler (some requestId) now e with requestId := some requestId }, none)
    else (exceptionHandler (some requestId) now e, some requestId)

/-! ### What a response says -/

/-- The status codes of the domain exceptions, each with its machine-readable code. -/
def _ERROR_CODES : List (Nat × String) :=
  [(422, "VALIDATION_ERROR"), (401, "UNAUTHORIZED"), (403, "FORBIDDEN"), (404, "RESOURCE_NOT_FOUND"),
    (409, "CONFLICT")]

/-- A domain exception has the code of its status. -/
def Failure.Coded : Failure → Prop
  | .app exc => (exc.statusCode, exc.code) ∈ _ERROR_CODES
  | _ => True

/-- An exception that the API raises: a domain exception has the code of its status, and the framework has three. -/
def ApiError.Coded : ApiError → Prop
  | .failure f => f.Coded
  | .requestValidationError _ => True
  | .httpException statusCode _ => ∃ error : FrameworkError, statusCode = error.statusCode

theorem ApiError.Coded.internalError_iff {e : ApiError} (h : e.Coded) {requestId : String} {now : Datetime} :
    (dispatch requestId now (.error e)).1.statusCode = 500 ↔ ¬ e.isHandledInside = true := by
  cases e with
  | failure f =>
    cases f with
    | app exc =>
      have hcodes : ∀ p ∈ _ERROR_CODES, p.1 ≠ 500 := by decide
      exact iff_of_false (hcodes _ h) (not_not.mpr rfl)
    | integrityError | dataError | staleDataError | assertionError | valueError =>
      exact iff_of_true rfl Bool.false_ne_true
  | requestValidationError errors => exact iff_of_false (by decide : ¬ 422 = 500) (not_not.mpr rfl)
  | httpException statusCode detail =>
    obtain ⟨error, rfl⟩ := h
    have hstatus : error.statusCode ≠ 500 := by cases error <;> decide
    exact iff_of_false hstatus (not_not.mpr rfl)

variable {requestId : String} {now : Datetime}

end AssetPilot
