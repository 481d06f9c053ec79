/-!
# Failures

The domain exceptions of `app/core/exceptions.py` (status, machine-readable code, message) and the
exceptions that a service does not raise itself: the two of the database driver, the session's
`StaleDataError` (an `UPDATE` that finds no row), a failed `assert`, and `ValueError`.
-/

namespace AssetPilot

structure AppException where
  statusCode : Nat
  code : String
  message : String
  deriving DecidableEq, Repr

inductive Failure
  | app (exception : AppException)
  | integrityError
  | dataError
  | staleDataError
  | assertionError
  | valueError
  deriving DecidableEq, Repr

def validationException (message : String) : Failure := .app ⟨422, "VALIDATION_ERROR", message⟩

def unauthorizedException (message : String) : Failure := .app ⟨401, "UNAUTHORIZED", message⟩

def forbiddenException (message : String) : Failure := .app ⟨403, "FORBIDDEN", message⟩

def notFoundException (message : String) : Failure := .app ⟨404, "RESOURCE_NOT_FOUND", message⟩

def conflictException (message : String) : Failure := .app ⟨409, "CONFLICT", message⟩

/-- A failure that the global handlers answer as a domain error. -/
def Failure.IsApp (f : Failure) : Prop := ∃ e, f = .app e

/-- `except IntegrityError as exc: raise ConflictException(message) from exc`. -/
def integrityErrorAsConflict (message : String) : Failure → Failure
  | .integrityError => conflictException message
  | f => f

@[simp] theorem Failure.isApp_app (e : AppException) : (Failure.app e).IsApp := ⟨e, rfl⟩

@[simp] theorem Failure.isApp_notFound (m : String) : (notFoundException m).IsApp := ⟨_, rfl⟩

@[simp] theorem Failure.isApp_conflict (m : String) : (conflictException m).IsApp := ⟨_, rfl⟩

@[simp] theorem Failure.isApp_validation (m : String) : (validationException m).IsApp := ⟨_, rfl⟩

@[simp] theorem Failure.isApp_unauthorized (m : String) : (unauthorizedException m).IsApp := ⟨_, rfl⟩

theorem isApp_integrityErrorAsConflict {m : String} {f : Failure}
    (h : f.IsApp ∨ f = .integrityError) : (integrityErrorAsConflict m f).IsApp := by
  rcases h with ⟨e, rfl⟩ | rfl
  · exact ⟨e, rfl⟩
  · exact ⟨_, rfl⟩

end AssetPilot
