import DriveBridge.Proofs.Chain.Conduct

/-! How opening a drive behind a multiplexer routes it, on the wire: the device below is opened, the
requests of the routing are answered by that device, and it is closed again where they fail. -/
namespace DriveBridge.Chain

namespace AtaDevice

@[simp] theorem place_mapProfile (f : Profile → Profile) (device : AtaDevice) :
    (device.mapProfile f).place = device.place := by
  cases device <;> rfl

/-- The device answers a request, by this conversation with the endpoint. -/
def Performs (device : AtaDevice) (exchange : Ata.Exchange) (below : List Exchange)
    (after : AtaDevice) : Prop :=
  (device.perform exchange.query).Path below (exchange.answer, after)

theorem ensures_performs (query : Ata.Query) (device : AtaDevice) :
    (device.perform query).Ensures fun below outcome =>
      device.Performs ⟨query, outcome.1⟩ below outcome.2 :=
  (device.safe_perform query).ensures_path

/-- The device gets the requests that route a drive, and nothing besides. -/
def RoutedBy (device : AtaDevice) (drive : UInt32) (below : List Exchange)
    (result : Except Failure Unit) (after : AtaDevice) : Prop :=
  ∃ exchanges, Multiplexer.Routed drive exchanges result ∧
    Dialogue.Served Performs device exchanges below after

theorem ensures_course (device : AtaDevice) (drive : UInt32) :
    (device.route drive).Ensures fun below outcome => ∃ requests after,
      Multiplexer.Course drive requests outcome.1 ∧
        Dialogue.Served Performs device requests below after ∧ outcome.2.place = after.place := by
  refine Dialogue.Ensures.bind ((Multiplexer.ensures_route drive).served ensures_performs) ?_
  intro below outcome ⟨requests, course, served⟩
  refine ⟨requests, outcome.2, course, ?_, place_mapProfile _ _⟩
  rw [List.append_nil]
  exact served

theorem ensures_route (device : AtaDevice) (drive : UInt32) :
    (device.route drive).Ensures fun below outcome =>
      ∃ after, device.RoutedBy drive below outcome.1 after ∧ outcome.2.place = after.place := by
  refine (device.ensures_course drive).mono fun below outcome hCourse => ?_
  obtain ⟨requests, after, course, served, hPlace⟩ := hCourse
  exact ⟨after, ⟨requests, course.routed, served⟩, hPlace⟩

end AtaDevice

end DriveBridge.Chain
