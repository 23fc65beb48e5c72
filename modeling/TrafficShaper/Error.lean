import TrafficShaper.Config.Basic
import TrafficShaper.Json.Error
import TrafficShaper.Text.Quoted

/-! # Errors of the filter library

Each failure of the library is a cause with the data its wording needs, and `Error.message`
holds all the wording.

* a property name that names no property;
* a value that a property refuses, with the `Reason`;
* a configuration outside the accepted ranges, with the `Issue`;
* JSON text that is no configuration, with the located reading error;
* a file that cannot be read, with the `IoError`.
-/

namespace TrafficShaper

open TrafficShaper.Binary TrafficShaper.Json

/-- Why a property refuses a value. -/
inductive Reason where
  | notInteger
  | notDistribution
  | notNumber
  | outsideUnit
  | notCount
  | belowMinusOne
  deriving DecidableEq, Repr

/-- The wording of a refusal. -/
def Reason.text : Reason → String
  | .notInteger => "expected an integer"
  | .notDistribution => "expected uniform or normal"
  | .notNumber => "expected a number"
  | .outsideUnit => "must be within [0, 1]"
  | .notCount => "expected a non-negative integer"
  | .belowMinusOne => "must be -1 or non-negative"

/-- What makes a configuration invalid. -/
inductive Issue where
  | outsideUnit (p : Property) (v : Binary32)
  | belowMinusOne (p : Property) (v : Int32)
  | unknownDistribution (name : String)
  deriving DecidableEq, Repr

/-- The wording of an invalid configuration. -/
def Issue.text : Issue → String
  | .outsideUnit p v => p.name ++ " must be within [0, 1], got " ++ v.plainText
  | .belowMinusOne p v => p.name ++ " must be -1 or non-negative, got " ++ toString v.toInt
  | .unknownDistribution name => "unknown delay distribution: " ++ name

/-- Why a file cannot be read. -/
inductive IoError where
  | notFound
  | isDirectory
  | notDirectory
  | nameTooLong
  | tooManyLinks
  | invalidText
  | other (code : Nat) (text : String)
  deriving DecidableEq, Repr

/-- The system's wording of a file error. -/
def IoError.text : IoError → String
  | .notFound => "No such file or directory (os error 2)"
  | .isDirectory => "Is a directory (os error 21)"
  | .notDirectory => "Not a directory (os error 20)"
  | .nameTooLong => "File name too long (os error 36)"
  | .tooManyLinks => "Too many levels of symbolic links (os error 40)"
  | .invalidText => "stream did not contain valid UTF-8"
  | .other code text => text ++ " (os error " ++ toString code ++ ")"

/-- **A failure of the library.** -/
inductive Error where
  | unknownProperty (name : String)
  | invalidProperty (p : Property) (value : String) (reason : Reason)
  | invalidConfig (issue : Issue)
  | parse (e : ReadError)
  | io (e : IoError)
  deriving DecidableEq, Repr

/-- **The wording of a failure.** -/
def Error.message : Error → String
  | .unknownProperty name => "Unknown property: " ++ name
  | .invalidProperty p value reason =>
    "Invalid value " ++ Text.quote value ++ " for property " ++ p.name ++ ": " ++ reason.text
  | .invalidConfig issue => "Invalid configuration: " ++ issue.text
  | .parse e => "Config parse error: " ++ e.message
  | .io e => "IO error: " ++ e.text

/-- The causes beneath a failure, outermost first: the reading error of a parse failure and the
system's text of a file error. -/
def Error.causes : Error → List String
  | .parse e => [e.message]
  | .io e => [e.text]
  | _ => []

end TrafficShaper
