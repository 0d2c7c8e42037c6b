import Handover.Error
import Handover.Proofs.Readback

/-! # A diagnostic locates the failure

The sentence on a call that failed begins with a word for the call and goes on with what the call was given. The word ends
at the first character that is neither a letter nor a digit, and what stands behind it is made of fixed text, numerals and
quotations, so all of it can be read back: two failures that are told in the same words have happened at the same place.
-/
namespace Handover

open Text (EndsRun append_inj_of_endsRun decimal quoted isNumeral decimal_append_inj quoted_append_inj)

inductive Part where
  | pass | connection | data | directory
deriving DecidableEq, Repr

namespace Part

def label : Part → String
  | .pass => "passsock"
  | .connection => "connsock"
  | .data => "datasock"
  | .directory => "dirfd"

theorem label_injective {part other : Part} (h : part.label = other.label) : part = other := by
  cases part <;> cases other <;> first | rfl | exact absurd h (by decide)

theorem isAlphanum_of_mem_label (part : Part) : ∀ c ∈ part.label.toList, c.isAlphanum = true := by
  rw [← List.all_eq_true]
  cases part <;> rfl

end Part

/-- The word that a diagnostic begins with. -/
inductive Verb where
  | setup (step : SetupStep)
  | accept | transfer | unlink | close
deriving DecidableEq, Repr

namespace Verb

def text : Verb → String
  | .setup step => step.text
  | .accept => "accept4"
  | .transfer => "sendmsg"
  | .unlink => "unlinkat"
  | .close => "close"

def all : List Verb :=
  [.setup .address, .setup .socket, .setup .bind, .setup .listen, .accept, .transfer, .unlink, .close]

theorem mem_all (verb : Verb) : verb ∈ all := by
  cases verb with
  | setup step => cases step <;> decide
  | accept | transfer | unlink | close => decide

theorem text_injective {verb other : Verb} (h : verb.text = other.text) : verb = other := by
  have hall : ∀ v ∈ all, ∀ w ∈ all, v.text = w.text → v = w := by decide
  exact hall verb verb.mem_all other other.mem_all h

theorem isAlphanum_of_mem_text (verb : Verb) : ∀ c ∈ verb.text.toList, c.isAlphanum = true := by
  rw [← List.all_eq_true]
  cases verb with
  | setup step => cases step <;> rfl
  | accept | transfer | unlink | close => rfl

end Verb

/-- The place of a failure: the call, with the name and the descriptors that it was given. -/
inductive Site where
  | setup (step : SetupStep) (name : String) (directory : Descriptor)
  | accept (listener : Descriptor)
  | transfer (connection data : Descriptor)
  | unlink (directory : Descriptor) (name : String)
  | close (part : Part) (descriptor : Descriptor)
deriving DecidableEq, Repr

namespace Site

def error : Site → Errno → Error
  | .setup step name directory, cause => .socketSetup step name directory cause
  | .accept listener, cause => .accept listener cause
  | .transfer connection data, cause => .transfer connection data cause
  | .unlink directory name, cause => .unlinkFailed directory name cause
  | .close part descriptor, cause => .closeFailed part.label descriptor cause

def verb : Site → Verb
  | .setup step _ _ => .setup step
  | .accept _ => .accept
  | .transfer _ _ => .transfer
  | .unlink _ _ => .unlink
  | .close _ _ => .close

def detail : Site → String
  | .setup _ name directory => " failed for socket " ++ (quoted name ++ (" (dirfd=" ++ (decimal directory ++ ")")))
  | .accept listener => "(passsock=" ++ (decimal listener ++ ") failed")
  | .transfer connection data =>
    "(connsock=" ++ (decimal connection ++ (", \x7bmsg=\x7bdatasock=" ++ (decimal data ++ "\x7d\x7d) failed")))
  | .unlink directory name => "(dirfd=" ++ (decimal directory ++ (", " ++ (quoted name ++ ") failed")))
  | .close part descriptor => "(" ++ (part.label ++ ("=" ++ (decimal descriptor ++ ") failed")))

variable {a b : Site}

theorem message_eq (site : Site) (cause : Errno) : (site.error cause).message = site.verb.text ++ site.detail := by
  cases site with
  | setup step name directory =>
    change step.text ++ " failed for socket " ++ quoted name ++ " (dirfd=" ++ decimal directory ++ ")" =
      step.text ++ (" failed for socket " ++ (quoted name ++ (" (dirfd=" ++ (decimal directory ++ ")"))))
    simp only [String.append_assoc]
  | accept listener =>
    change "accept4(passsock=" ++ decimal listener ++ ") failed" =
      "accept4" ++ ("(passsock=" ++ (decimal listener ++ ") failed"))
    simp only [← String.append_assoc, String.reduceAppend]
  | transfer connection data =>
    change "sendmsg(connsock=" ++ decimal connection ++ ", \x7bmsg=\x7bdatasock=" ++ decimal data ++ "\x7d\x7d) failed" =
      "sendmsg" ++ ("(connsock=" ++ (decimal connection ++
        (", \x7bmsg=\x7bdatasock=" ++ (decimal data ++ "\x7d\x7d) failed"))))
    simp only [← String.append_assoc, String.reduceAppend]
  | unlink directory name =>
    change "unlinkat" ++ "(" ++ ("dirfd=" ++ decimal directory ++ ", " ++ quoted name) ++ ") failed" =
      "unlinkat" ++ ("(dirfd=" ++ (decimal directory ++ (", " ++ (quoted name ++ ") failed"))))
    simp only [← String.append_assoc, String.reduceAppend]
  | close part descriptor =>
    change "close" ++ "(" ++ (part.label ++ "=" ++ decimal descriptor) ++ ") failed" =
      "close" ++ ("(" ++ (part.label ++ ("=" ++ (decimal descriptor ++ ") failed"))))
    simp only [← String.append_assoc, String.reduceAppend]

theorem endsRun_detail (site : Site) : EndsRun Char.isAlphanum site.detail := by
  cases site with
  | setup => exact EndsRun.append ⟨' ', rfl, rfl⟩ _
  | accept | transfer | unlink | close => exact EndsRun.append ⟨'(', rfl, rfl⟩ _

/-- A numeral in a diagnostic is followed by punctuation. -/
theorem decimal_append_literal_inj {m n : Int} {s x y : String} (hs : EndsRun isNumeral s)
    (h : decimal m ++ (s ++ x) = decimal n ++ (s ++ y)) : m = n ∧ x = y := by
  obtain ⟨hmn, hxy⟩ := decimal_append_inj (hs.append x) (hs.append y) h
  exact ⟨hmn, (String.append_right_inj s).mp hxy⟩

theorem eq_of_verb_of_detail (hv : a.verb = b.verb) (hd : a.detail = b.detail) : a = b := by
  cases a with
  | setup step name directory =>
    cases b with
    | setup step' name' directory' =>
      obtain ⟨hname, htail⟩ := quoted_append_inj ((String.append_right_inj " failed for socket ").mp hd)
      have hnumeral := (String.append_right_inj " (dirfd=").mp htail
      obtain ⟨hdirectory, -⟩ := decimal_append_inj ⟨')', rfl, rfl⟩ ⟨')', rfl, rfl⟩ hnumeral
      rw [Verb.setup.inj hv, hname, hdirectory]
    | accept | transfer | unlink | close => exact absurd hv (by simp [verb])
  | accept listener =>
    cases b with
    | accept listener' =>
      have hnumeral := (String.append_right_inj "(passsock=").mp hd
      obtain ⟨hlistener, -⟩ := decimal_append_inj ⟨')', rfl, rfl⟩ ⟨')', rfl, rfl⟩ hnumeral
      rw [hlistener]
    | setup | transfer | unlink | close => exact absurd hv (by simp [verb])
  | transfer connection data =>
    cases b with
    | transfer connection' data' =>
      have hnumeral := (String.append_right_inj "(connsock=").mp hd
      obtain ⟨hconnection, htail⟩ := decimal_append_literal_inj ⟨',', rfl, rfl⟩ hnumeral
      obtain ⟨hdata, -⟩ := decimal_append_inj ⟨'\x7d', rfl, rfl⟩ ⟨'\x7d', rfl, rfl⟩ htail
      rw [hconnection, hdata]
    | setup | accept | unlink | close => exact absurd hv (by simp [verb])
  | unlink directory name =>
    cases b with
    | unlink directory' name' =>
      have hnumeral := (String.append_right_inj "(dirfd=").mp hd
      obtain ⟨hdirectory, htail⟩ := decimal_append_literal_inj ⟨',', rfl, rfl⟩ hnumeral
      obtain ⟨hname, -⟩ := quoted_append_inj htail
      rw [hdirectory, hname]
    | setup | accept | transfer | close => exact absurd hv (by simp [verb])
  | close part descriptor =>
    cases b with
    | close part' descriptor' =>
      have hsign : ∀ x : String, EndsRun Char.isAlphanum ("=" ++ x) := fun x => EndsRun.append ⟨'=', rfl, rfl⟩ x
      obtain ⟨hlabel, htail⟩ := append_inj_of_endsRun part.isAlphanum_of_mem_label part'.isAlphanum_of_mem_label
        (hsign _) (hsign _) ((String.append_right_inj "(").mp hd)
      have hnumeral := (String.append_right_inj "=").mp htail
      obtain ⟨hdescriptor, -⟩ := decimal_append_inj ⟨')', rfl, rfl⟩ ⟨')', rfl, rfl⟩ hnumeral
      rw [Part.label_injective hlabel, hdescriptor]
    | setup | accept | transfer | unlink => exact absurd hv (by simp [verb])

/-- Two diagnostics read the same exactly if the failures have happened at the same place, whatever the system gave as
the reasons. -/
theorem a_diagnostic_locates_the_failure (a b : Site) (cause other : Errno) :
    (a.error cause).message = (b.error other).message ↔ a = b := by
  refine ⟨fun h => ?_, fun h => ?_⟩
  · rw [message_eq, message_eq] at h
    obtain ⟨hverb, hdetail⟩ := append_inj_of_endsRun a.verb.isAlphanum_of_mem_text b.verb.isAlphanum_of_mem_text
      a.endsRun_detail b.endsRun_detail h
    exact eq_of_verb_of_detail (Verb.text_injective hverb) hdetail
  · rw [message_eq, message_eq, h]

end Site

end Handover
