import TenantEndpoints.Resource.Basic
import TenantEndpoints.Text.Quoted
import TenantEndpoints.Text.Utf8

/-!
# Failures

Everything that can go wrong with an endpoint, by its cause. Each failure is of
one of four classes, and the class alone decides how it is reported.
-/
namespace TenantEndpoints

/-- Why a wish is refused. -/
inductive Rejection
  | emptyName
  | longName
  | malformedName (name : String)
  | emptyNamespace
  | emptyUserId
  | noEligiblePorts (service : String)
  | notPositive (parameter : String)
  | missingNamespace (kind : Kind) (name : String)
  /-- A refusal that came from elsewhere, in its own words. -/
  | reported (message : String)
  deriving DecidableEq, Repr

/-- What broke on the inside. -/
inductive Breakdown
  | unconfiguredDomain
  | missingUid (route : String)
  | unreadableKey (key : String) (fault : Text.Utf8.Fault)
  | missingKey (secret key : String)
  | timedOut (kind : Kind) (ns name : String)
  /-- A chain of causes, the outermost first. -/
  | chain (causes : List String)
  deriving DecidableEq, Repr

inductive Failure
  | notFound (kind name : String)
  | conflict (kind name : String)
  | invalid (reason : Rejection)
  | internal (breakdown : Breakdown)
  deriving DecidableEq, Repr

/-- How a failure is reported. -/
inductive FailureClass
  | notFound
  | conflict
  | validation
  | internal
  deriving DecidableEq, Repr

/-- The most bytes a name may have, so that every name derived from it has at most 63. -/
def maxNameLength : Nat := 63 - "strip-prefix-".length

def Rejection.message : Rejection → String
  | .emptyName => "name must not be empty"
  | .longName => s!"name must be at most {maxNameLength} characters"
  | .malformedName name =>
    "name " ++ Text.quote name ++ " must consist of lower case alphanumeric characters or '-', " ++
      "and must start and end with an alphanumeric character"
  | .emptyNamespace => "namespace must not be empty"
  | .emptyUserId => "user id must not be empty"
  | .noEligiblePorts service => "Service " ++ service ++ " exposes no eligible ports"
  | .notPositive parameter => parameter ++ " must be a positive integer"
  | .missingNamespace kind name => kind.name ++ " " ++ name ++ " must have a namespace"
  | .reported message => message

/-- How a resource is named in messages. -/
def resourceId (ns name : String) : String := ns ++ "/" ++ name

def Breakdown.message : Breakdown → String
  | .unconfiguredDomain => "domain base url is not configured"
  | .missingUid route => "IngressRoute " ++ route ++ " has no uid"
  | .unreadableKey key fault => "invalid secret " ++ key ++ ": " ++ fault.message
  | .missingKey secret key => "Secret " ++ secret ++ " is missing " ++ key
  | .timedOut kind ns name => kind.name ++ " " ++ resourceId ns name ++ ": request timed out"
  | .chain causes => ": ".intercalate causes

namespace Failure

def message : Failure → String
  | .notFound kind name => kind ++ " " ++ name ++ " not found"
  | .conflict kind name => kind ++ " " ++ name ++ " already exists"
  | .invalid reason => "invalid endpoint: " ++ reason.message
  | .internal breakdown => breakdown.message

def «class» : Failure → FailureClass
  | .notFound _ _ => .notFound
  | .conflict _ _ => .conflict
  | .invalid _ => .validation
  | .internal _ => .internal

def isNotFound (f : Failure) : Bool := f.class = .notFound

def isConflict (f : Failure) : Bool := f.class = .conflict

/-- No resource of a kind under a key. -/
def absent (k : Kind) (ns name : String) : Failure := .notFound k.name (resourceId ns name)

/-- A resource of a kind under a key already. -/
def taken (k : Kind) (ns name : String) : Failure := .conflict k.name (resourceId ns name)

end Failure

end TenantEndpoints
