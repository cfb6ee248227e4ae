import SwitchLanPlay.Sysmodule.Config

/-! The relay that the setup app shows. `read_relay` takes the first line of the key from the file
that `nx_config_load` reads to its end.
-/

namespace SwitchLanPlay.Setup

open Foundation
open Server (utf8)
open Sysmodule

def readRelay (file : Option Bytes) (sz : Nat) : Int × Bytes :=
  match (configLines file).findSome? (iniValue (utf8 "relay_addr")) with
  | none => (-1, [])
  | some value => (0, value.take (sz - 1))

def relayValues (file : Option Bytes) : List Bytes :=
  iniValues (utf8 "relay_addr") (configLines file)

section Shown

variable {file : Option Bytes} {sz : Nat}

theorem readRelay_eq_zero_iff {value : Bytes}
    : readRelay file sz = (0, value)
      ↔ (relayValues file).head?.map (·.take (sz - 1)) = some value := by
  rw [relayValues, iniValues, List.head?_filterMap, readRelay]
  cases (configLines file).findSome? (iniValue (utf8 "relay_addr")) <;> simp

theorem relayAddr_nxConfigLoad (file : Option Bytes)
    : (nxConfigLoad file).2.relayAddr
      = ((relayValues file).getLast?.map (·.take (nxStrMax - 1))).getD [] := by
  rw [nxConfigLoad_snd]
  exact NxConfig.get_ofLines (configLines file) .relayAddr

/-- The app shows what the sysmodule uses if and only if the file has no relay, or its first relay
is its last and not empty.
-/
theorem relay_shown_iff
    (short : ∀ value ∈ relayValues file, value.length < sz ∧ value.length < nxStrMax)
    : (∀ value,
        readRelay file sz = (0, value)
        ↔ (nxConfigLoad file).1 = 0 ∧ (nxConfigLoad file).2.relayAddr = value)
      ↔ relayValues file = []
        ∨ ((relayValues file).head? = (relayValues file).getLast?
          ∧ (relayValues file).head? ≠ some []) := by
  simp only [readRelay_eq_zero_iff, nxConfigLoad_eq_zero_iff, relayAddr_nxConfigLoad]
  cases values : relayValues file with
  | nil => simp
  | cons first rest =>
    rw [values] at short
    obtain ⟨last, final⟩ : ∃ last, (first :: rest).getLast? = some last :=
      ⟨_, List.getLast?_cons⟩
    have whole : ∀ value ∈ first :: rest,
        value.take (sz - 1) = value ∧ value.take (nxStrMax - 1) = value := by
      intro value member
      obtain ⟨fits, fitsField⟩ := short value member
      exact ⟨List.take_of_length_le (by omega), List.take_of_length_le (by omega)⟩
    rw [final, List.head?_cons, Option.map_some, Option.map_some,
      (whole first List.mem_cons_self).1, (whole last (List.mem_of_getLast? final)).2]
    simp only [Option.some.injEq, Option.getD_some, reduceCtorEq, false_or, ne_eq]
    constructor
    · intro agrees
      obtain ⟨some_, same⟩ := (agrees first).mp rfl
      exact ⟨same.symm, same ▸ some_⟩
    · rintro ⟨rfl, some_⟩ value
      exact ⟨fun same => ⟨some_, same⟩, And.right⟩

theorem relay_shown_iff_oneRelay
    : readRelay (some (utf8 "[server]\nrelay_addr = 1.2.3.4:11451\n")) 256
        = (0, utf8 "1.2.3.4:11451")
      ∧ ∀ value,
          readRelay (some (utf8 "[server]\nrelay_addr = 1.2.3.4:11451\n")) 256 = (0, value)
          ↔ (nxConfigLoad (some (utf8 "[server]\nrelay_addr = 1.2.3.4:11451\n"))).1 = 0
            ∧ (nxConfigLoad (some (utf8 "[server]\nrelay_addr = 1.2.3.4:11451\n"))).2.relayAddr
              = value := by
  have values : relayValues (some (utf8 "[server]\nrelay_addr = 1.2.3.4:11451\n"))
      = [utf8 "1.2.3.4:11451"] := by decide
  refine ⟨by decide, (relay_shown_iff ?_).mpr (.inr ?_)⟩
  · rw [values]
    decide
  · rw [values]
    decide

/-- Two relays: the app shows the first, and the sysmodule connects to the second. An empty value is
shown, and the sysmodule refuses it.
-/
theorem wrong_relay_shown
    : readRelay (some (utf8 "relay_addr = 1.2.3.4:1\nrelay_addr = 5.6.7.8:2\n")) 256
        = (0, utf8 "1.2.3.4:1")
      ∧ nxConfigLoad (some (utf8 "relay_addr = 1.2.3.4:1\nrelay_addr = 5.6.7.8:2\n"))
        = (0, { NxConfig.setDefaults with relayAddr := utf8 "5.6.7.8:2" })
      ∧ readRelay (some (utf8 "relay_addr =\n")) 256 = (0, [])
      ∧ (nxConfigLoad (some (utf8 "relay_addr =\n"))).1 = -1 := by
  decide

end Shown

end SwitchLanPlay.Setup
