/-!
The style sheet of the viewer's page.
-/

namespace AlbumBrowser.Web.Page

/-- The lines between the style tags. -/
def style : List String :=
  ["*\x7bmargin:0;padding:0;box-sizing:border-box\x7d",
    "body\x7bbackground:#0a0a0a;color:#e0e0e0;font-family:-apple-system,BlinkMacSystemFont,\"Segoe UI\",Roboto,sans-serif;overflow-x:hidden\x7d",
    "header\x7bposition:sticky;top:0;z-index:100;background:rgba(10,10,10,.95);backdrop-filter:blur(12px);padding:1rem 2rem;display:flex;justify-content:space-between;align-items:center;border-bottom:1px solid #222\x7d",
    "header h1\x7bfont-size:1.2rem;font-weight:600;color:#4fc3f7\x7d",
    "header .source\x7bfont-size:.8rem;color:#666\x7d",
    "#photoCount\x7bfont-size:.9rem;color:#999\x7d",
    ".filter-bar\x7bpadding:.8rem 2rem;background:#111;border-bottom:1px solid #1a1a1a;display:flex;gap:1rem;align-items:center;flex-wrap:wrap\x7d",
    ".filter-bar label\x7bfont-size:.75rem;text-transform:uppercase;color:#666;letter-spacing:.05em;display:flex;gap:.4rem;align-items:center\x7d",
    ".filter-bar input\x7bbackground:#1a1a1a;color:#ccc;border:1px solid #333;padding:.3rem .5rem;border-radius:6px\x7d",
    ".filter-bar button,.folders button\x7bbackground:#1a1a1a;color:#ccc;border:1px solid #333;padding:.4rem .8rem;border-radius:6px;cursor:pointer;font-size:.85rem;transition:all .2s\x7d",
    ".filter-bar button:hover,.folders button:hover,.folders button.active\x7bbackground:#4fc3f7;color:#000;border-color:#4fc3f7\x7d",
    "#error\x7bcolor:#ef5350;padding:.5rem 2rem;display:none\x7d",
    "main\x7bpadding:1rem 2rem 4rem\x7d",
    ".grid\x7bdisplay:grid;grid-template-columns:repeat(auto-fill,minmax(180px,1fr));gap:10px\x7d",
    ".card\x7bbackground:#141414;border:1px solid #222;border-radius:6px;cursor:pointer;transition:transform .2s;overflow:hidden\x7d",
    ".card:hover\x7btransform:scale(1.03)\x7d",
    ".card h3\x7bfont-size:1rem;font-weight:500;padding:.8rem\x7d",
    ".card .card-footer\x7bfont-size:.75rem;color:#888;padding:0 .8rem .8rem\x7d",
    "",
    "/* Album view */",
    ".modal\x7bdisplay:none;position:fixed;inset:0;z-index:1000;background:rgba(0,0,0,.97);overflow:auto;padding:2rem\x7d",
    ".modal.open\x7bdisplay:block\x7d",
    ".modal-close\x7bposition:absolute;top:1rem;right:1.5rem;font-size:2rem;color:#888;cursor:pointer\x7d",
    ".modal-close:hover\x7bcolor:#fff\x7d",
    ".modal h2\x7bcolor:#4fc3f7;font-weight:400\x7d",
    ".modal .date\x7bcolor:#999;margin:.3rem 0 1rem\x7d",
    ".descripcion-lista\x7blist-style:none;margin-bottom:1rem\x7d",
    ".descripcion-lista li\x7bpadding:.15rem 0\x7d",
    ".folders\x7bdisplay:flex;gap:.4rem;flex-wrap:wrap;margin-bottom:1rem\x7d",
    ".viewer\x7bdisplay:flex;align-items:center;justify-content:center;gap:1rem\x7d",
    ".viewer img\x7bmax-width:80vw;max-height:70vh;object-fit:contain;border-radius:4px\x7d",
    ".nav\x7bfont-size:3rem;color:#555;cursor:pointer;user-select:none;padding:1rem;display:none\x7d",
    ".nav:hover\x7bcolor:#fff\x7d",
    ".position\x7btext-align:center;color:#777;margin-top:.5rem\x7d"]

end AlbumBrowser.Web.Page
