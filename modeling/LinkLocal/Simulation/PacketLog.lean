import LinkLocal.Detector

/-!
The log of a link: the latest packets, at most 1024 of them. Older packets are dropped from time to
time only, so that recording a packet is cheap; the view `latest` never shows them. Main statement:
what a log shows after a packet.
-/
namespace LinkLocal.Simulation

/-- A log of packets. -/
structure PacketLog where
  /-- The recorded packets that are still kept, latest first. -/
  kept : List Packet := []
  /-- How many are kept. -/
  size : Nat := 0

namespace PacketLog

def capacity : Nat := 1024

/-- What a log shows, latest first. -/
def latest (g : PacketLog) : List Packet := g.kept.take capacity

/-- What a log shows, oldest first. -/
def toList (g : PacketLog) : List Packet := g.latest.reverse

/-- Records a packet. When twice as many packets are kept as are shown, the older half goes. -/
def record (c : Packet) (g : PacketLog) : PacketLog :=
  if g.size < 2 * capacity then ⟨c :: g.kept, g.size + 1⟩
  else ⟨c :: g.kept.take (capacity - 1), capacity⟩

/-- A recorded packet is the latest, and the others stay as far as there is room. -/
theorem latest_record (c : Packet) (g : PacketLog) :
    (g.record c).latest = (c :: g.latest).take capacity := by
  unfold record
  split <;> simp [latest, capacity, List.take_take]

end PacketLog
end LinkLocal.Simulation
