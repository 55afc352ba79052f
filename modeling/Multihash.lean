import Multihash.Primitive
import Multihash.Pipeline
import Multihash.Machine
import Multihash.Validate
import Multihash.Chains
import Multihash.Catalog
import Multihash.Schedule
import Multihash.Collision
import Multihash.Exports
