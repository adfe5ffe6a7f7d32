import Chorde.Clients.Inproc
import Chorde.Clients.Atomicity
import Chorde.Clients.Independence
import Chorde.Clients.Decorated
import Chorde.Clients.Namespace
import Chorde.Clients.Purge
import Chorde.SecurePickle
import Chorde.Coherence.Handlers
import Chorde.Coherence.Cluster
import Chorde.Coherence.Locks
import Chorde.Coherence.Release
import Chorde.Coherence.Mutex
import Chorde.Coherence.Deletion
import Chorde.Clients.Coherent
