/-!
The script of the viewer's page. It draws the views that the server sends and asks for the next ones.
-/

namespace AlbumBrowser.Web.Page

/-- The lines between the script tags. -/
def script : List String :=
  ["const $=id=>document.getElementById(id);",
    "",
    "function esc(s)\x7b",
    "  return String(s).replace(/&/g,'&amp;').replace(/</g,'&lt;').replace(/>/g,'&gt;').replace(/\"/g,'&quot;');",
    "\x7d",
    "",
    "async function call(method,url,body)\x7b",
    "  const opts=\x7bmethod\x7d;",
    "  if(body!==undefined)\x7bopts.body=JSON.stringify(body);opts.headers=\x7b'Content-Type':'application/json'\x7d;\x7d",
    "  const res=await fetch(url,opts);",
    "  const data=await res.json();",
    "  if(!res.ok)throw new Error(data.error||res.statusText);",
    "  return data;",
    "\x7d",
    "",
    "function showError(msg)\x7b",
    "  const el=$('error');",
    "  el.textContent=msg||'';",
    "  el.style.display=msg?'block':'none';",
    "\x7d",
    "",
    "function renderGallery(view)\x7b",
    "  const container=$('galleryContainer');",
    "  container.innerHTML='';",
    "  view.albums.forEach(card=>\x7b",
    "    const el=document.createElement('div');",
    "    el.className='card';",
    "    el.innerHTML='<h3>'+esc(card.label)+'</h3><div class=\"card-footer\">'+esc(card.date)+'</div>';",
    "    el.addEventListener('click',()=>openAlbum(card.id));",
    "    container.appendChild(el);",
    "  \x7d);",
    "  $('photoCount').textContent=view.count_label;",
    "\x7d",
    "",
    "function renderModal(view)\x7b",
    "  const modal=$('photoModal');",
    "  if(!view)\x7bmodal.classList.remove('open');return;\x7d",
    "  $('modalTitle').textContent=view.title;",
    "  $('modalDate').textContent=view.date;",
    "  $('modalDescription').innerHTML=view.description===null",
    "    ?'Sans description'",
    "    :'<ul class=\"descripcion-lista\">'+view.description.map(l=>'<li><strong>'+esc(l.label)+':</strong> '+esc(l.value)+'</li>').join('')+'</ul>';",
    "  const buttons=$('folderButtons');",
    "  buttons.innerHTML='';",
    "  view.folders.forEach(f=>\x7b",
    "    const btn=document.createElement('button');",
    "    btn.textContent=f.label;",
    "    if(f.key===view.active_folder)btn.classList.add('active');",
    "    btn.addEventListener('click',()=>act('POST','/api/folder?key='+encodeURIComponent(f.key)));",
    "    buttons.appendChild(btn);",
    "  \x7d);",
    "  $('modalImage').src=view.image||'';",
    "  $('modalImage').style.display=view.image?'':'none';",
    "  const nav=view.show_navigation?'inline-block':'none';",
    "  $('prevBtn').style.display=nav;",
    "  $('nextBtn').style.display=nav;",
    "  $('modalPosition').textContent=view.total?view.position+' / '+view.total:'';",
    "  modal.classList.add('open');",
    "\x7d",
    "",
    "async function act(method,url,body)\x7b",
    "  try\x7brenderModal(await call(method,url,body));\x7dcatch(e)\x7bshowError(e.message);\x7d",
    "\x7d",
    "",
    "async function gallery(method,url,body)\x7b",
    "  try\x7brenderGallery(await call(method,url,body));showError('');\x7dcatch(e)\x7bshowError(e.message);\x7d",
    "\x7d",
    "",
    "function openAlbum(id)\x7bact('POST','/api/open?id='+encodeURIComponent(id));\x7d",
    "",
    "function closeAlbum()\x7b",
    "  call('POST','/api/close').catch(e=>showError(e.message));",
    "  renderModal(null);",
    "\x7d",
    "",
    "$('searchBtn').addEventListener('click',()=>gallery('POST','/api/filters',\x7b",
    "  date:$('dateInput').value,",
    "  start_time:$('startTime').value,",
    "  end_time:$('endTime').value,",
    "  keyword:$('keywordInput').value.toLowerCase(),",
    "  include_without_description:$('includeWithoutDescription').checked",
    "\x7d));",
    "",
    "$('resetFiltersBtn').addEventListener('click',()=>\x7b",
    "  $('dateInput').value='';",
    "  $('startTime').value='';",
    "  $('endTime').value='';",
    "  $('keywordInput').value='';",
    "  $('includeWithoutDescription').checked=true;",
    "  gallery('POST','/api/filters/reset');",
    "\x7d);",
    "",
    "$('reloadBtn').addEventListener('click',()=>\x7b",
    "  gallery('POST','/api/reload').then(()=>call('GET','/api/filters')).then(fillFilters).catch(()=>\x7b\x7d);",
    "\x7d);",
    "$('prevBtn').addEventListener('click',()=>act('POST','/api/prev'));",
    "$('nextBtn').addEventListener('click',()=>act('POST','/api/next'));",
    "$('modalClose').addEventListener('click',closeAlbum);",
    "",
    "document.addEventListener('keydown',e=>\x7b",
    "  if(!$('photoModal').classList.contains('open'))return;",
    "  if(e.key==='Escape')closeAlbum();",
    "  if(e.key==='ArrowLeft')act('POST','/api/prev');",
    "  if(e.key==='ArrowRight')act('POST','/api/next');",
    "\x7d);",
    "",
    "function fillFilters(c)\x7b",
    "  $('dateInput').value=c.date;",
    "  $('startTime').value=c.start_time;",
    "  $('endTime').value=c.end_time;",
    "  $('keywordInput').value=c.keyword;",
    "  $('includeWithoutDescription').checked=c.include_without_description;",
    "\x7d",
    "",
    "// Init",
    "call('GET','/api/filters').then(fillFilters).catch(()=>\x7b\x7d);",
    "gallery('GET','/api/albums');",
    "call('GET','/api/modal').then(renderModal).catch(()=>\x7b\x7d);"]

end AlbumBrowser.Web.Page
