import Relabel.Failure
import Relabel.Pattern.Reader
import Relabel.Template.Extraction

/-!
# Errors of a run

Why new names cannot be computed.
-/

namespace Relabel

def NumberField.label : NumberField → Text
  | parentLevel => "parent directory level".toList
  | column => "csv column".toList
  | indexStep => "index step".toList
  | indexWidth => "index width".toList
  | indexStart => "index start".toList
  | skipRange => "skip range".toList
  | skipNumber => "skip number".toList
  | group => "capture group".toList

def TemplateError.message : TemplateError → Text
  | badNumber field text =>
    "invalid ".toList ++ field.label ++ " in replacement template: ".toList ++ text
  | zeroStep token => "index step must be greater than zero: ".toList ++ token

inductive RunError
  | template (cause : TemplateError)
  | pattern (cause : PatternError)
  | lookup (path : Text) (cause : Failure)
  | sorting (cause : Failure)
deriving DecidableEq, Repr

def PatternError.message : PatternError → Text
  | tooLarge => "Compiled regex exceeds size limit of 10485760 bytes.".toList
  | _ => "regex parse error:".toList

def RunError.message : RunError → Text
  | template cause => cause.message
  | pattern cause => "invalid find pattern: ".toList ++ cause.message
  | lookup path cause =>
    "metadata lookup failed for ".toList ++ path ++ ": ".toList ++ cause.message
  | sorting cause => "sorting the batch failed: ".toList ++ cause.message

end Relabel
