import IoModule.Server.System
import IoModule.Utils.ListedActions

/-!
# What a relayed command means

A command passes through the module as numbers: `wait_for_command` decodes
the payload of a message into `uint8_t` output numbers and 32-bit action
types, and `pop_command` encodes them again.

The conversions never refuse a number, so the text handed out says what the
payload said exactly when every number of the payload already was one of its
type (`relay_faithful_iff`). `relay_wraps` hands output 257 out as output 1.
-/

namespace IoModule

namespace System

variable {N : JsonText}

/-- **The relay keeps exactly the numbers that fit.** In every run, in any
environment, the payload a handed-out command came from and the text that was
written for it both parse, and the text lists the actions of the payload
exactly when each output number of the payload is a `uint8_t` and each action
type a `uint32_t`. -/
theorem relay_faithful_iff (hN : N.Lossless) {allows : System → Event → Prop}
    {backlog : List Message} {s : System}
    (h : Run (System.apply N) allows (.withBacklog backlog) s) :
    ∀ r ∈ s.returned, ∃ received written,
      N.parse r.command.source.payload = .ok received ∧ N.parse r.text = .ok written
        ∧ (written.listedActions = received.listedActions ↔ received.FitsActions) := by
  intro r hr
  have hsound : s.Sound N := run_sound h (sound_withBacklog backlog)
  have hqueued : r.command ∈ s.enqueued :=
    hsound.conserved.mem_iff.mp (List.mem_append_left _ (List.mem_map_of_mem hr))
  obtain ⟨received, as, hparse, hread, hcommand⟩ :=
    (DeviceCommand.deserialize_ok_iff N _ _ _).mp (hsound.genuine _ hqueued).decoded
  have hwritten : N.parse r.text = .ok r.command.command.commandDocument := by
    rw [hsound.text_eq r hr]
    exact hN _ r.command.command.commandDocument_plain
  refine ⟨received, _, hparse, hwritten, ?_⟩
  rw [hcommand]
  exact DeviceCommand.listedActions_iff hread

/-- One command that fits, polled and popped. -/
theorem relay_faithful_iff_one : ∃ s : System, s.returned.length = 1 ∧
    ∀ r ∈ s.returned, ∃ received written,
      JsonText.compact.parse r.command.source.payload = .ok received
        ∧ JsonText.compact.parse r.text = .ok written
        ∧ (written.listedActions = received.listedActions ↔ received.FitsActions) := by
  have hplay : (play (System.apply .compact) (fun _ _ => True)
      [.wait (.commands [] true), .wait (.commands [.forOpta 0 10 switchOn] true),
        .pop ⟨true, true, true⟩] .initial).any (fun s => s.returned.length = 1) = true := by
    decide +kernel
  obtain ⟨s, hrun, hlen⟩ := exists_run_of_play hplay
  exact ⟨s, of_decide_eq_true hlen, relay_faithful_iff JsonText.compact_lossless hrun⟩

/-- **Output 257 becomes output 1.** A payload that switches on output 257
is queued, and the text handed out for it switches on output 1. -/
theorem relay_wraps : ∃ s : System, Run (System.apply .compact) (fun _ _ => True) .initial s
    ∧ ∃ r ∈ s.returned, ∃ received written,
      JsonText.compact.parse r.command.source.payload = .ok received
        ∧ JsonText.compact.parse r.text = .ok written
        ∧ written.listedActions ≠ received.listedActions := by
  have hplay : (play (System.apply .compact) (fun _ _ => True)
      [.wait (.commands [] true),
        .wait (.commands [.forOpta 0 10 "[\x7b\"outNum\":257,\"actType\":1\x7d]"] true),
        .pop ⟨true, true, true⟩] .initial).any
      (fun s => ∃ r ∈ s.returned,
        JsonText.compact.parse r.command.source.payload
          = .ok (.array [.object [("outNum", .integer 257), ("actType", .integer 1)]])
        ∧ JsonText.compact.parse r.text
          = .ok (.array [.object [("outNum", .integer 1), ("actType", .integer 1)]])) = true := by
    decide +kernel
  obtain ⟨s, hrun, hs⟩ := exists_run_of_play hplay
  obtain ⟨r, hr, hreceived, hwritten⟩ := of_decide_eq_true hs
  exact ⟨s, hrun, r, hr, _, _, hreceived, hwritten, by decide +kernel⟩

end System

end IoModule
