import ClusterDns.Proofs.Net.Ipv4
import ClusterDns.Proofs.Reconcile.Agenda

/-! Bindings compare addresses as texts. An address that is accepted has one spelling, so this is the
same as to compare the addresses themselves. -/

namespace ClusterDns.Reconcile

open Net (Ipv4)
open PiHole (Record)

/-- A name is bound, given what it is bound to now, with the two read as addresses. A text that is
no address is none that can be asked for. -/
def Agenda.toBindAddress (record : Record) : Option String → Agenda
  | none => [(.create, .create record)]
  | some current =>
    if Ipv4.parse? current.toList = Ipv4.parse? record.address.toList then []
    else [(.create, .delete record.domain), (.create, .create record)]

/-- The records are listed, then each host is bound to the address. -/
def Agenda.toSync (target : String) (hosts : List String) (records : List Record) : Agenda :=
  (.list, .list) ::
    (distinct hosts).flatMap fun host => toBindAddress ⟨host, target⟩ (address? records host)

theorem Agenda.toBindAddress_eq {target : String} (literal : Ipv4.isLiteral target = true)
    (host : String) (current : Option String) :
    toBindAddress ⟨host, target⟩ current = toBind ⟨host, target⟩ current := by
  cases current with
  | none => rfl
  | some current => simp only [toBindAddress, toBind, Ipv4.parse?_inj literal]

theorem kept_sync {subject : Subject} {target : String} {hosts : List String} {log : Log}
    {outcome : Except Error Unit} (literal : Ipv4.isLiteral target = true)
    (run : Dialogue (syncHosts subject target hosts).run log outcome) :
    (Agenda.toSync target hosts log.listed).IsKept log outcome := by
  have hbind (records : List Record) :
      Follows ((distinct hosts).flatMap fun host =>
          Agenda.toBindAddress ⟨host, target⟩ (Agenda.address? records host))
        (bindHosts subject target hosts (.ofRecords records)) Succeeds := by
    simp only [Agenda.toBindAddress_eq literal, ← get?_ofRecords]
    exact follows_bindHosts subject target hosts (.ofRecords records)
  exact kept_listed hbind run

/-- An accepted address is four decimal numbers below 256 with dots between them, so there is one way
to write each: two of them are the same address just if they are the same text. What is done to bind
hosts to an accepted address is therefore what a comparison of addresses asks for. No accepted
address can be mistaken for part of an entry, a list or a port. -/
theorem literals_have_one_spelling :
    (∀ s, Ipv4.isLiteral s = true ↔
      ∃ a b c d, Ipv4.IsNumber a ∧ Ipv4.IsNumber b ∧ Ipv4.IsNumber c ∧ Ipv4.IsNumber d ∧
        s = a ++ "." ++ b ++ "." ++ c ++ "." ++ d) ∧
    (∀ (s : String) (address : Ipv4), Ipv4.parse? s.toList = some address ↔ s = address.render) ∧
    (∀ s t, Ipv4.isLiteral s = true → Ipv4.isLiteral t = true →
      (Ipv4.parse? s.toList = Ipv4.parse? t.toList ↔ s = t)) ∧
    (∀ (subject : Subject) (target : String) (hosts : List String) (log : Log)
        (outcome : Except Error Unit), Ipv4.isLiteral target = true →
      Dialogue (syncHosts subject target hosts).run log outcome →
        (Agenda.toSync target hosts log.listed).IsKept log outcome) ∧
    ∀ s, Ipv4.isLiteral s = true →
      ∀ c ∈ s.toList, Text.isBlank c = false ∧ c ≠ ',' ∧ c ≠ ':' := by
  refine ⟨fun s => Ipv4.isLiteral_iff_isNumber, ?_, ?_, ?_, ?_⟩
  · intro s address
    rw [Ipv4.parse?_eq_some_iff, String.toList_inj]
  · intro s t _ ht
    exact Ipv4.parse?_inj ht
  · intro subject target hosts log outcome literal run
    exact kept_sync literal run
  · intro s h c hc
    refine ⟨(Ipv4.isWord_of_isLiteral h).solid c hc, ?_⟩
    rcases Ipv4.mem_of_isLiteral h hc with hdigit | rfl
    · constructor
      · rintro rfl
        cases hdigit
      · rintro rfl
        cases hdigit
    · decide

/-- Surroundings in which one name has the address, one has another, and one has the address with a
zero too many. -/
def untidy : Program.Surroundings Surroundings Unit
  | .fetch _, _ => (.ok none, ())
  | .patch .., _ => (.ok none, ())
  | .dns .list, _ => (.ok [⟨"a.lan", "10.0.0.9"⟩, ⟨"b.lan", "10.0.0.1"⟩, ⟨"c.lan", "10.0.0.09"⟩], ())
  | .dns (.create _), _ => (.ok (), ())
  | .dns (.delete _), _ => (.ok (), ())
  | .note _, _ => ((), ())
  | .count _, _ => ((), ())

/-- The dialogue in which three hosts are bound to the address. -/
def untidyLog : Log :=
  Dialogue.transcript untidy (syncHosts shopSubject "10.0.0.9" ["a.lan", "b.lan", "c.lan"]).run ()

theorem literals_have_one_spelling_of_untidy :
    (Ipv4.isLiteral "10.0.0.9" = true ∧ Ipv4.isLiteral "10.0.0.09" = false) ∧
    (Ipv4.parse? "10.0.0.9".toList = Ipv4.parse? "10.0.0.1".toList ↔ "10.0.0.9" = "10.0.0.1") ∧
    untidyLog.calls = [(.list, none), (.delete "b.lan", none),
      (.create ⟨"b.lan", "10.0.0.9"⟩, none), (.delete "c.lan", none),
      (.create ⟨"c.lan", "10.0.0.9"⟩, none)] ∧
    (Agenda.toSync "10.0.0.9" ["a.lan", "b.lan", "c.lan"] untidyLog.listed).IsKept untidyLog
      ((syncHosts shopSubject "10.0.0.9" ["a.lan", "b.lan", "c.lan"]).run.run untidy ()).1 ∧
    ∀ c ∈ "10.0.0.9".toList, Text.isBlank c = false ∧ c ≠ ',' ∧ c ≠ ':' := by
  have hliteral : Ipv4.isLiteral "10.0.0.9" = true := by decide +kernel
  obtain ⟨-, -, hsame, hsync, hclean⟩ := literals_have_one_spelling
  refine ⟨⟨hliteral, by decide +kernel⟩, hsame _ _ hliteral (by decide +kernel),
    by decide +kernel, ?_, hclean _ hliteral⟩
  exact hsync _ _ _ _ _ hliteral (Dialogue.dialogue_transcript untidy _ ())

end ClusterDns.Reconcile
